import BootEnv.Proofs.Merge

/-!
# Decoding a written file, and refusing one that cannot be written

A file whose variables can all be written is a text from which they are read back: cut at newlines and
each line at its first equals sign, it gives every variable once, in the order of names. Any other
file is refused, whether it is to be written or merged, for the least of its names that offends.

* `decode`: what a text gives when it is cut at newlines and equals signs.
* `decode_render`: **a written file is decoded to its variables.**
* `render_inj`: files with the same text have the same variables.
* `FirstOffender`: the variable with the least name of those that cannot be written.
* `exists_firstOffender`: **what a file is refused for.**
* `merge_empty`: merged into the empty text, a file gives its own text.
* `render_decodes_or_refuses`: both halves together.
-/

namespace BootEnv

namespace EnvFile

variable {f g : EnvFile} {content name value : String} {r : Refusal}

section Decode

/-- A text cut at newlines, and each line at its first equals sign; `none` for a line without one. -/
def decode (content : String) : List (Option (String × String)) :=
  (Text.pieces content.toList).map fun line =>
    (Text.cutAt? '=' line).map fun r => (String.ofList r.1, String.ofList r.2)

theorem newline_notMem_map_lineOf (hf : f.Valid) : ∀ l ∈ f.vars.toList.map lineOf, '\n' ∉ l := by
  intro l hl
  obtain ⟨v, hv, rfl⟩ := List.mem_map.1 hl
  have hvar := hf v.1 v.2 (Std.ExtTreeMap.mem_toList_iff_getElem?_eq_some.1 hv)
  exact (notMem_lineOf hvar.1 hvar.2).1

theorem render_of_valid (hf : f.Valid) :
    f.render = .ok (String.ofList (unlines (f.vars.toList.map lineOf))) :=
  render_eq_ok_iff.2 ⟨check_eq_ok_iff.1 (valid_iff_check.1 hf), rfl⟩

/-- **A written file is decoded to its variables**, each once and in the order of names. -/
theorem decode_render (h : f.render = .ok content) : decode content = f.vars.toList.map some := by
  obtain ⟨hvars, rfl⟩ := render_eq_ok_iff.1 h
  have hf : f.Valid := valid_iff_check.2 (check_eq_ok_iff.2 hvars)
  unfold decode
  rw [String.toList_ofList, Text.pieces_unlines (newline_notMem_map_lineOf hf), List.map_map]
  refine List.map_congr_left fun v hv => ?_
  rw [Function.comp_apply, cutAt?_lineOf (hvars v hv).1]
  simp

/-- Files with the same text have the same variables. -/
theorem render_inj (hf : f.render = .ok content) (hg : g.render = .ok content) :
    f.vars = g.vars := by
  have hsome := (decode_render hf).symm.trans (decode_render hg)
  exact Std.ExtTreeMap.toList_inj.1 (List.map_injective_iff.2 (fun _ _ => Option.some.inj) hsome)

/-- The text of a file ends in a newline, unless it is empty. -/
theorem getLast?_render (h : f.render = .ok content) :
    content.toList.getLast? = if f.vars.isEmpty then none else some '\n' := by
  obtain ⟨-, rfl⟩ := render_eq_ok_iff.1 h
  rw [String.toList_ofList]
  split
  next hempty =>
    rw [Std.ExtTreeMap.isEmpty_iff] at hempty
    rw [hempty]
    rfl
  next hempty =>
    refine Text.getLast?_unlines fun hnil => hempty ?_
    rw [← Std.ExtTreeMap.isEmpty_toList, List.map_eq_nil_iff.1 hnil]
    rfl

end Decode

section Refuse

/-- The variable cannot be written. -/
def Offends (name value : String) : Prop :=
  ¬ (isName name.toList = true ∧ isValue value.toList = true)

/-- The variable cannot be written, and every other one like it has a greater name. -/
structure FirstOffender (f : EnvFile) (name value : String) : Prop where
  carried : f.vars[name]? = some value
  offends : Offends name value
  least : ∀ other text : String, f.vars[other]? = some text → Offends other text → name ≤ other

/-- What a variable is refused for: its name if that is bad, else its value. -/
def refusalOf (name : String) : Refusal :=
  if isName name.toList then .badValue name else .badName name

theorem refusal?_of_offends (h : Offends name value) :
    refusal? name value = some (refusalOf name) := by
  unfold Offends at h
  unfold refusal? refusalOf
  cases hn : isName name.toList with
  | false => rfl
  | true =>
    have hv : isValue value.toList = false := by simpa [hn] using h
    simp [hv]

theorem offends_of_refusal? (h : refusal? name value = some r) : Offends name value := by
  intro hfits
  rw [refusal?_eq_none_iff.2 hfits] at h
  exact absurd h (by simp)

theorem check_eq_error_iff :
    f.check = .error r ↔ (f.vars.toList.findSome? fun v => refusal? v.1 v.2) = some r := by
  unfold check
  cases f.vars.toList.findSome? fun v => refusal? v.1 v.2 <;> simp

/-- **What a file is refused for** is the first of its variables that cannot be written. -/
theorem exists_firstOffender (h : ¬ f.Valid) :
    ∃ name value, f.FirstOffender name value ∧ f.check = .error (refusalOf name) := by
  rw [valid_iff_check] at h
  cases hcheck : f.check with
  | ok u => exact absurd hcheck h
  | error r =>
    obtain ⟨front, v, back, hl, hr, hfront⟩ :=
      List.findSome?_eq_some_iff.1 (check_eq_error_iff.1 hcheck)
    have hsorted := pairwise_vars f.vars
    have hv : v ∈ f.vars.toList := by rw [hl]; simp
    have hoff := offends_of_refusal? hr
    refine ⟨v.1, v.2, ⟨Std.ExtTreeMap.mem_toList_iff_getElem?_eq_some.1 hv, hoff, ?_⟩, ?_⟩
    · intro other text hother hbad
      have hmem := Std.ExtTreeMap.mem_toList_iff_getElem?_eq_some.2 hother
      rw [hl] at hmem hsorted
      -- what stands before `v` can be written, and what stands behind it has a greater name
      rcases List.mem_append.1 hmem with hmem | hmem
      · exact absurd (refusal?_eq_none_iff.1 (hfront _ hmem)) hbad
      · rcases List.mem_cons.1 hmem with rfl | hmem
        · exact le_refl other
        · have hback := (List.pairwise_cons.1 (List.pairwise_append.1 hsorted).2.1).1
          exact le_of_lt (hback _ hmem)
    · rw [refusal?_of_offends hoff, Option.some.injEq] at hr
      rw [hr]

end Refuse

/-- **A file is decoded from its text, or refused for its first bad variable.** If all variables can be
written, the text of the file ends in a newline unless there is no variable, and cut at newlines and
first equals signs it gives just the variables, by ascending names; so it tells them apart. Otherwise
writing the file and merging it into any text are refused alike, for the least name that offends: the
name is bad, or else its value is. -/
theorem render_decodes_or_refuses :
    (∀ f : EnvFile, f.Valid → ∃ content, f.render = .ok content ∧
      decode content = f.vars.toList.map some ∧ f.vars.toList.Pairwise (·.1 < ·.1) ∧
      content.toList.getLast? = if f.vars.isEmpty then none else some '\n') ∧
    (∀ f g : EnvFile, f.Valid → g.Valid → f.render = g.render → f.vars = g.vars) ∧
    ∀ f : EnvFile, ¬ f.Valid → ∃ name value, f.FirstOffender name value ∧
      f.render = .error (if isName name.toList then .badValue name else .badName name) ∧
      ∀ existing, f.merge existing =
        .error (if isName name.toList then .badValue name else .badName name) := by
  refine ⟨fun f hf => ?_, fun f g hf hg he => ?_, fun f hf => ?_⟩
  · have hrender := render_of_valid hf
    exact ⟨_, hrender, decode_render hrender, pairwise_vars f.vars, getLast?_render hrender⟩
  · have hg := render_of_valid hg
    exact render_inj (he.trans hg) hg
  · obtain ⟨name, value, hfirst, hcheck⟩ := exists_firstOffender hf
    exact ⟨name, value, hfirst, refused_of_check hcheck⟩

/-- Merged into the empty text, a file gives its own text. -/
theorem merge_empty (f : EnvFile) : f.merge "" = f.render := by
  have hlines : Text.lines "".toList = [] := rfl
  have hall : f.unassigned [] = f.vars.toList := List.filter_eq_self.2 fun _ _ => rfl
  unfold merge render
  simp only [hlines, hall, List.map_nil, List.nil_append]

end EnvFile

end BootEnv
