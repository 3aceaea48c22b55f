import BootEnv.Yaml.Text

/-!
# Gaps in scalars

What stands between two words of a scalar that may run over several lines. Within a line it is kept.
Over a line break the blanks on both sides go; a single newline becomes a space, and of several the
first goes.

* `Gap`: what has been seen of a gap.
* `Gap.text`: what becomes of it.
-/

namespace BootEnv.Yaml

/-- What stands between two words. -/
inductive Gap where
  /-- Blanks within a line; none of them between characters of one word. -/
  | inline (blanks : List Char)
  /-- Line breaks, the first one, if it counts, apart from the others, and so many blanks behind the
  last of them. -/
  | broken (first more : List Char) (column : Nat)
  deriving Repr, DecidableEq

namespace Gap

/-- Nothing at all. -/
def none : Gap := inline []

/-- A line break that does not count. -/
def folded : Gap := broken [] [] 0

/-- The gap with a blank behind it. -/
def addBlank (c : Char) : Gap → Gap
  | inline blanks => inline (blanks ++ [c])
  | broken first more column => broken first more (column + 1)

/-- The gap with a line break behind it. -/
def addBreak (c : Char) : Gap → Gap
  | inline _ => broken [c] [] 0
  | broken first more _ => broken first (more ++ [c]) 0

/-- What becomes of a gap. -/
def text : Gap → List Char
  | inline blanks => blanks
  | broken first more _ =>
    if first = ['\n'] then (if more.isEmpty then [' '] else more) else first ++ more

/-- There is a line break in the gap. -/
def isBroken : Gap → Bool
  | inline _ => false
  | broken .. => true

/-- The gap ends in a line break. -/
def isFresh : Gap → Bool
  | broken _ _ 0 => true
  | _ => false

/-- There is a line break in the gap, and fewer blanks than `margin` behind it. -/
def isBefore (margin : Nat) : Gap → Bool
  | broken _ _ column => column < margin
  | inline _ => false

/-- There is nothing. -/
def isNone (g : Gap) : Bool := g == none

end Gap

end BootEnv.Yaml
