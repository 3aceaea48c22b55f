import BootEnv.Text.Case.Upper
import BootEnv.Text.Case.Lower
import BootEnv.Text.Case.Context

/-!
# Upper and lower case

The full case mappings: a character may become several, and a capital sigma becomes a final sigma
at the end of a word. Every other character is mapped without regard to its neighbours.

* `upper`, `lower`: the mappings of a text.
* `upper_append`: upper case is taken character by character.
* `lower_append_of_stop`: **lower case is taken on each side of a character that is neither cased
  nor ignorable**, so such a character cuts a text for the final-sigma rule.
-/

namespace BootEnv.Text

/-- The code point of `c` lies in one of the intervals. -/
def inRanges (ranges : List (Nat × Nat)) (c : Char) : Bool :=
  ranges.any fun r => r.1 ≤ c.toNat && c.toNat ≤ r.2

/-- The upper case of a character, by itself. -/
def upperOf (c : Char) : List Char :=
  if c.toNat < 128 then [c.toUpper] else CaseRun.image upperRuns upperExpansions c

/-- The lower case of a character, by itself. -/
def lowerOf (c : Char) : List Char :=
  if c.toNat < 128 then [c.toLower] else CaseRun.image lowerRuns lowerExpansions c

/-- A character that has, or is, a case. -/
def isCased (c : Char) : Bool := inRanges casedRanges c

/-- A character that stands between letters without ending a word. -/
def isIgnorable (c : Char) : Bool := inRanges ignorableRanges c

/-- The first character that is not ignorable is cased. -/
def meetsCased (cs : List Char) : Bool :=
  match cs.dropWhile isIgnorable with
  | [] => false
  | c :: _ => isCased c

/-- The lower case of a text, given the reversed text before it. -/
def lowerFrom (before : List Char) : List Char → List Char
  | [] => []
  | c :: cs =>
    (if c = 'Σ' then [if meetsCased before && !meetsCased cs then 'ς' else 'σ'] else lowerOf c)
      ++ lowerFrom (c :: before) cs

/-- The upper case of a text. -/
def upper (cs : List Char) : List Char := cs.flatMap upperOf

/-- The lower case of a text. -/
def lower (cs : List Char) : List Char := lowerFrom [] cs

@[simp] theorem upper_append (a b : List Char) : upper (a ++ b) = upper a ++ upper b := by
  simp [upper]

/-- A character that is neither cased nor ignorable hides nothing that is cased. -/
theorem meetsCased_append_stop {c : Char} (h : isIgnorable c = false) (hc : isCased c = false)
    (a b : List Char) : meetsCased (a ++ c :: b) = meetsCased a := by
  induction a with
  | nil => simp [meetsCased, h, hc]
  | cons x a ih =>
    by_cases hx : isIgnorable x <;> simp_all [meetsCased]

theorem lowerFrom_append_stop {c : Char} (h : isIgnorable c = false) (hc : isCased c = false)
    (hs : c ≠ 'Σ') (a b before : List Char) :
    lowerFrom before (a ++ c :: b) = lowerFrom before a ++ lowerOf c ++
      lowerFrom (c :: (a.reverse ++ before)) b := by
  induction a generalizing before with
  | nil => simp [lowerFrom, hs]
  | cons x a ih =>
    simp only [List.cons_append, lowerFrom, meetsCased_append_stop h hc, ih]
    simp

/-- What stands before a stop does not matter behind it. -/
theorem lowerFrom_stop {c : Char} (h : isIgnorable c = false) (hc : isCased c = false)
    (a b before : List Char) : lowerFrom (a ++ c :: before) b = lowerFrom a b := by
  induction b generalizing a with
  | nil => rfl
  | cons x b ih =>
    simp only [lowerFrom, meetsCased_append_stop h hc]
    rw [← List.cons_append, ih]

/-- **A character that is neither cased nor ignorable separates the lower case of its two
sides.** -/
theorem lower_append_of_stop {c : Char} (h : isIgnorable c = false) (hc : isCased c = false)
    (hs : c ≠ 'Σ') (a b : List Char) : lower (a ++ c :: b) = lower a ++ lowerOf c ++ lower b := by
  rw [lower, lowerFrom_append_stop h hc hs, lower, lower]
  have := lowerFrom_stop h hc [] b a.reverse
  simp_all

end BootEnv.Text
