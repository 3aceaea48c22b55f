import BootEnv.Proofs.Content
import BootEnv.Proofs.Entry

/-!
# Building a table again from its file

A table is built once more without metadata, from the variables that its environment file assigns.
The interfaces give the same rows as before, and each well-known token finds its value in the file:
the file lacks the variable only where the value was empty, and a variable that is not set counts as
empty again.

* `value_build_congr`: a built table depends on metadata and variables through the well-known values.
* `value_of_vars`: the variables of a file give the values back.
* `rebuild_from_content`: **the table built from the file is the table that was written.**
-/

namespace BootEnv

variable {m m' : Metadata} {h : Host} {lookup lookup' : Lookup}

/-- Metadata and variables matter to a table only through the well-known values. -/
theorem value_build_congr (hw : ∀ w : WellKnown, w.value m lookup = w.value m' lookup') :
    (Table.build m h lookup).value = (Table.build m' h lookup').value := by
  have hrow : WellKnown.row m lookup = WellKnown.row m' lookup' := by
    funext w
    unfold WellKnown.row
    rw [hw w]
  rw [value_build_eq_fill, value_build_eq_fill, hrow]

/-- Without metadata a well-known value is that of its variable. -/
theorem WellKnown.value_empty (w : WellKnown) (lookup : Lookup) :
    w.value Metadata.empty lookup = (lookup w.variableName).getD "" := by
  unfold WellKnown.value
  rw [Metadata.get_empty]

/-- **The variables of a file give the well-known values back**, empty ones included. -/
theorem value_of_vars (w : WellKnown) {f : EnvFile}
    (hf : EnvFile.ofTable? (Table.build m h lookup).value = some f) :
    f.vars[w.variableName]?.getD "" = w.value m lookup := by
  have hentry := getElem?_build_wellKnown m h lookup w
  have hvar := EnvFile.getElem?_variablesOf (apart_build m h lookup) hentry
  rw [EnvFile.vars_of_ofTable? hf, hvar]
  by_cases hv : w.value m lookup = ""
  · rw [if_pos hv, hv, Option.getD_none]
  · rw [if_neg hv, Option.getD_some]

/-- **A table is built again from its environment file.** With no metadata and the same host, the
variables that the written content assigns give the same table, and so does no variable at all when
there is no file to write. -/
theorem rebuild_from_content (m : Metadata) (h : Host) (lookup : Lookup) :
    (EnvFile.ofTable? (Table.build m h lookup).value = none →
      (Table.build Metadata.empty h Lookup.unset).value = (Table.build m h lookup).value) ∧
    ∀ (f : EnvFile) (content : String),
      EnvFile.ofTable? (Table.build m h lookup).value = some f → f.render = .ok content →
      (Table.build Metadata.empty h (Lookup.ofContent content)).value =
        (Table.build m h lookup).value := by
  constructor
  · intro hnone
    refine value_build_congr fun w => ?_
    -- every value was empty, and so is that of a variable that is not set
    have hempty := EnvFile.ofTable?_eq_none_iff.1 hnone _ _ (getElem?_build_wellKnown m h lookup w)
    rw [WellKnown.value_empty]
    exact hempty.symm
  · intro f content hf hrender
    refine value_build_congr fun w => ?_
    rw [WellKnown.value_empty, EnvFile.ofContent_of_render hrender, value_of_vars w hf]

end BootEnv
