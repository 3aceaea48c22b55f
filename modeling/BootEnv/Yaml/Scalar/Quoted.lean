import BootEnv.Numeral
import BootEnv.Yaml.Gap

/-!
# Quoted scalars

In single quotes a quote is written twice and all else stands for itself. In double quotes a
backslash starts an escape; behind a backslash a line break does not count.

* `readSingle`, `readDouble`: the text of a scalar from behind its opening quote, and what follows
  its closing quote.
-/

namespace BootEnv.Yaml

/-- A piece of text in front of what is read next. -/
def prepend (piece : List Char) (r : Option (List Char × List Char)) :
    Option (List Char × List Char) :=
  r.map fun r => (piece ++ r.1, r.2)

/-- The text of a single-quoted scalar behind a gap, and what follows. -/
def readSingle (gap : Gap) : List Char → Option (List Char × List Char)
  | [] => none
  | c :: cs =>
    if isBreak c then readSingle (gap.addBreak c) cs
    else if isBlank c then readSingle (gap.addBlank c) cs
    else if gap.isFresh && atSign (c :: cs) then none
    else if c = '\'' then
      match cs with
      | '\'' :: rest => prepend (gap.text ++ ['\'']) (readSingle .none rest)
      | _ => some (gap.text, cs)
    else prepend (gap.text ++ [c]) (readSingle .none cs)

/-- The character of an escape of one letter. -/
def letterEscape? (c : Char) : Option Char :=
  [('0', Char.ofNat 0), ('a', Char.ofNat 7), ('b', Char.ofNat 8), ('t', '\t'), ('\t', '\t'),
    ('n', '\n'), ('v', Char.ofNat 0x0B), ('f', Char.ofNat 0x0C), ('r', '\r'),
    ('e', Char.ofNat 0x1B), (' ', ' '), ('"', '"'), ('/', '/'), ('\\', '\\'), ('N', '\u0085'),
    ('_', '\u00A0'), ('L', '\u2028'), ('P', '\u2029')].lookup c

/-- How many digits of a code point stand behind the letter of an escape. -/
def codeDigits? (c : Char) : Option Nat := [('x', 2), ('u', 4), ('U', 8)].lookup c

/-- The character with a code point of so many hexadecimal digits. -/
def readCode? (digits : Nat) (cs : List Char) : Option Char := do
  let code ← Numeral.value? 16 (cs.take digits)
  if digits ≤ cs.length ∧ code.isValidChar then some (Char.ofNat code) else none

/-- The character that the text behind a backslash stands for, and how many characters say so. -/
def readEscape? : List Char → Option (Char × Nat)
  | [] => none
  | c :: cs =>
    match codeDigits? c with
    | some digits => (readCode? digits cs).map fun d => (d, digits + 1)
    | none => (letterEscape? c).map fun d => (d, 1)

/-- The text of a double-quoted scalar behind a gap, and what follows. -/
def readDouble (gap : Gap) (cs : List Char) : Option (List Char × List Char) :=
  match cs with
  | [] => none
  | c :: cs =>
    if isBreak c then readDouble (gap.addBreak c) cs
    else if isBlank c then readDouble (gap.addBlank c) cs
    else if gap.isFresh && atSign (c :: cs) then none
    else if c = '"' then some (gap.text, cs)
    else if c = '\\' then
      if cs.head?.any isBreak then prepend gap.text (readDouble .folded cs.tail)
      else
        match readEscape? cs with
        | some (d, used) => prepend (gap.text ++ [d]) (readDouble .none (cs.drop used))
        | none => none
    else prepend (gap.text ++ [c]) (readDouble .none cs)
termination_by cs.length
decreasing_by all_goals simp; try omega

end BootEnv.Yaml
