import BootEnv.Numeral
import BootEnv.Yaml.Text

/-!
# Block scalars

A scalar that is made of indented lines. Its header says whether line breaks are kept or folded into
spaces, what becomes of the breaks at its end, and perhaps how far it is indented; otherwise the
first line that holds something decides.

* `readBlock`: the text of a block scalar from behind its first sign, and what follows it.
-/

namespace BootEnv.Yaml

/-- What becomes of the line breaks at the end of a block scalar. -/
inductive Chomping where
  /-- All of them go. -/
  | strip
  /-- One of them stays. -/
  | clip
  /-- All of them stay. -/
  | keep
  deriving Repr, DecidableEq

/-- What the header of a block scalar says. -/
structure BlockHeader where
  chomping : Chomping
  /-- Columns of indentation. -/
  width? : Option Nat
  deriving Repr, DecidableEq

namespace BlockHeader

/-- The sign for a way of chomping, if there is one. -/
def readChomping : List Char → Option Chomping × List Char
  | '+' :: cs => (some .keep, cs)
  | '-' :: cs => (some .strip, cs)
  | cs => (none, cs)

/-- The digit of an indentation, if there is one. It is not zero. -/
def readWidth? (cs : List Char) : Option (Option Nat × List Char) :=
  match cs.head?.bind (digit? 10) with
  | some 0 => none
  | some n => some (some n, cs.tail)
  | none => some (none, cs)

/-- The header, with both signs in either order, and the lines behind it. -/
def read? (cs : List Char) : Option (BlockHeader × List Char) := do
  let (before?, cs) := readChomping cs
  let (width?, cs) ← readWidth? cs
  let (after?, cs) := if before?.isNone && width?.isSome then readChomping cs else (none, cs)
  let rest ← lineRest? cs
  return (⟨(before?.or after?).getD .clip, width?⟩, rest)

end BlockHeader

/-- Empty lines in front of the lines of a scalar. -/
structure EmptyLines where
  breaks : List Char
  /-- Columns passed on the line behind them. -/
  column : Nat
  /-- The most columns passed on any of these lines. -/
  widest : Nat
  rest : List Char
  deriving Repr, DecidableEq

/-- Empty lines from a line on of which `column` columns are passed. With a limit no more columns
are passed on a line than that. A tab may not take part in the indentation. -/
def readEmptyLines (limit? : Option Nat) (column widest : Nat) : List Char → Option EmptyLines
  | [] => some ⟨[], column, max widest column, []⟩
  | c :: cs =>
    let isWithin := limit?.all fun limit => column < limit
    if c = ' ' ∧ isWithin then readEmptyLines limit? (column + 1) widest cs
    else if c = '\t' ∧ isWithin then none
    else if isBreak c then
      (readEmptyLines limit? 0 (max widest column) cs).map fun r =>
        { r with breaks := c :: r.breaks }
    else some ⟨[], column, max widest column, c :: cs⟩

/-- How the lines of a block scalar are joined. -/
structure BlockStyle where
  isFolded : Bool
  chomping : Chomping
  indent : Nat
  deriving Repr, DecidableEq

/-- The text starts with a blank. -/
def startsBlank (cs : List Char) : Bool := cs.head?.any isBlank

/-- What stands between two lines: the break of the first one, then those of empty lines. When lines
are folded, a newline between two lines without a blank in front goes, or becomes a space. -/
def BlockStyle.join (s : BlockStyle) (isIndented : Bool) (first more : List Char) : List Char :=
  if s.isFolded && first == ['\n'] && !isIndented then (if more.isEmpty then [' '] else more)
  else first ++ more

/-- What stays of the breaks behind the last line. -/
def BlockStyle.finish (s : BlockStyle) (first more : List Char) : List Char :=
  match s.chomping with
  | .strip => []
  | .clip => first
  | .keep => first ++ more

/-- The text of the lines behind a line of a block scalar, given the break at its end, whether it
started with a blank, and the empty lines behind it. A line has at least one character; asking
whether the rest is shorter only serves to show that the reading ends. -/
def readLines (s : BlockStyle) (wasBlank : Bool) (first : List Char) (e : EmptyLines) :
    Option (List Char × List Char) :=
  if e.column = s.indent ∧ e.rest ≠ [] then
    let line := e.rest.takeWhile (!isBreak ·)
    let behind := e.rest.dropWhile (!isBreak ·)
    let isBlankLine := startsBlank e.rest
    match readEmptyLines (some s.indent) 0 0 behind.tail with
    | none => none
    | some e' =>
      if e'.rest.length < e.rest.length then
        (readLines s isBlankLine (behind.take 1) e').map fun r =>
          (s.join (wasBlank || isBlankLine) first e.breaks ++ line ++ r.1, r.2)
      else none
  else some (s.finish first e.breaks, e.rest)
termination_by e.rest.length

/-- The text of a block scalar and what follows it, from behind its first sign. Its lines lie at
least at the column `margin`. -/
def readBlock (isFolded : Bool) (margin : Nat) (cs : List Char) :
    Option (List Char × List Char) := do
  let (header, cs) ← BlockHeader.read? cs
  let limit? := header.width?.map fun width => margin - 1 + width
  let e ← readEmptyLines limit? 0 0 cs
  let indent := limit?.getD (max (max e.widest margin) 1)
  readLines ⟨isFolded, header.chomping, indent⟩ false [] e

end BootEnv.Yaml
