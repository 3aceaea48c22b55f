import BootEnv.Text.Case
import BootEnv.Text.Printable

/-!
# Quoted texts

A text between double quotes in which every character can be told: a quote, a backslash and the
common controls have a short escape, and what is not printable, or would join the character before
it, is written by its code point in braces.

* `quoted`: the quoted form.
* `escaped`: the form of one character.
-/

namespace BootEnv.Text

/-- Lower-case hexadecimal digits of `n`, without leading zeros. -/
def hexDigits (n : Nat) : List Char := Nat.toDigits 16 n

/-- How a quoted text shows a character. -/
def escaped (c : Char) : List Char :=
  if c = '\x00' then ['\\', '0']
  else if c = '\t' then ['\\', 't']
  else if c = '\r' then ['\\', 'r']
  else if c = '\n' then ['\\', 'n']
  else if c = '\\' then ['\\', '\\']
  else if c = '"' then ['\\', '"']
  else if inRanges extendingRanges c || !inRanges printableRanges c then
    ['\\', 'u', '\x7b'] ++ hexDigits c.toNat ++ ['\x7d']
  else [c]

/-- The text between double quotes, every character told apart. -/
def quoted (s : String) : String :=
  String.ofList ('"' :: s.toList.flatMap escaped ++ ['"'])

end BootEnv.Text
