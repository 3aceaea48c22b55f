import BootEnv.Yaml.Gap

/-!
# Plain scalars

A scalar without quotes: words with gaps between them. It ends where a colon ends a word, at a
comment, at a line that is not indented enough, and inside brackets at a sign that belongs to them.

* `readPlain`: a plain scalar, the gap behind it, and what follows that.
-/

namespace BootEnv.Yaml

/-- Where a plain scalar stands: inside brackets or not, and the least column of its further
lines. -/
structure PlainPlace where
  inFlow : Bool
  margin : Nat
  deriving Repr, DecidableEq

/-- A sign that belongs to brackets. -/
def isFlowSign (c : Char) : Bool := c == ',' || c == '[' || c == ']' || c == '\x7b' || c == '\x7d'

namespace PlainPlace

/-- The scalar ends with the gap in front of the text. -/
def endsAfter (p : PlainPlace) (gap : Gap) (cs : List Char) : Bool :=
  !gap.isNone &&
    (cs.head? == some '#' || (!p.inFlow && gap.isBefore p.margin) || (gap.isFresh && atSign cs))

/-- The scalar ends at the sign in front of the text. -/
def endsAt (p : PlainPlace) : List Char → Bool
  | [] => true
  | c :: cs => (c == ':' && endsWord cs) || (p.inFlow && isFlowSign c)

/-- A colon inside brackets that neither belongs to a word nor ends one. -/
def isLoneColon (p : PlainPlace) : List Char → Bool
  | ':' :: c :: _ => p.inFlow && (isFlowSign c || c == '?')
  | _ => false

end PlainPlace

/-- The text of a plain scalar behind a gap, the gap behind the scalar, and what follows. -/
def readPlain (p : PlainPlace) (gap : Gap) : List Char → Option (List Char × Gap × List Char)
  | [] => some ([], gap, [])
  | c :: cs =>
    if isBreak c then readPlain p (gap.addBreak c) cs
    else if isBlank c then
      if c = '\t' ∧ gap.isBefore p.margin then none else readPlain p (gap.addBlank c) cs
    else if p.endsAfter gap (c :: cs) then some ([], gap, c :: cs)
    else if p.isLoneColon (c :: cs) then none
    else if p.endsAt (c :: cs) then some ([], gap, c :: cs)
    else (readPlain p .none cs).map fun r => (gap.text ++ c :: r.1, r.2)

end BootEnv.Yaml
