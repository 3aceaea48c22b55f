import BootEnv.Report.Filter

/-!
# Loggers

What a log leaves to the logger that it installs: which events a text of directives lets through, and how
an event is written. The log itself decides when a logger is installed and with which directives, so
everything said of the log is said of any logger.

* `Logger`: the two choices.
* `Logger.plain`: directives of levels and targets, and a line `LEVEL target: text` for an event. Runs
  use it unless another logger is given.
-/

namespace BootEnv

/-- What is shown of events, and how. -/
structure Logger where
  /-- The directives let the event through. -/
  shows (directives : String) (e : Event) : Bool
  /-- The lines that an event is written as. -/
  write (e : Event) : List String

namespace Logger

/-- How a character is written: controls that a terminal obeys are written by their number. -/
def showChar (c : Char) : List Char :=
  let n := c.toNat
  let digits := [Nat.digitChar (n / 16), Nat.digitChar (n % 16)]
  if [0x07, 0x08, 0x0C, 0x1B, 0x7F].contains n then '\\' :: 'x' :: digits
  else if 0x80 ≤ n ∧ n ≤ 0x9F then '\\' :: 'u' :: '\x7b' :: digits ++ ['\x7d']
  else [c]

/-- The lines of an event: more than one if its text has line breaks. -/
def plainLines (e : Event) : List String :=
  let text := e.level.name.toList ++ ' ' :: e.target.toList ++ ':' :: ' ' ::
    e.text.toList.flatMap showChar
  (Text.lines (text ++ ['\n'])).map String.ofList

/-- The logger that reads directives of levels and targets and writes no time and no colours. -/
def plain : Logger where
  shows directives := (Filter.ofText directives).shows
  write := plainLines

end Logger

end BootEnv
