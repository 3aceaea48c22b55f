import BootEnv.Proofs.Pieces
import BootEnv.Proofs.Rows
import Mathlib.Data.String.Basic

/-!
# What a merged content assigns

A content is merged line by line. A line that assigns a variable of the file is written anew, any
other line is written back, and what the lines leave unassigned comes behind them. The merged content
is then read again: its lines are those that were written, less a carriage return at their ends, and
a name stands in front of it, so each line assigns what it assigned before or was made to assign.

* `lines_mergedLines`: the lines of a merged content are read back, less carriage returns.
* `ofLine?_dropReturn`: a carriage return at the end of a line is part of the value.
* `assigned?_dropReturn`: so it does not matter to which variable of the file a line assigns.
* `ofLine?_updateLine`: **what a line assigns once it is brought up to date and read again.**
* `mem_unassigned`: which variables come behind the lines.
* `assignments_merge`: **what a merged content assigns.**
-/

namespace BootEnv

section Lines

variable {c : Char} {cs l line : List Char}

theorem Text.cutAt?_eq_none_iff : Text.cutAt? c cs = none ↔ c ∉ cs := by
  constructor
  · intro h hc
    obtain ⟨a, b, rfl, hn⟩ := List.eq_append_cons_of_mem hc
    rw [Text.cutAt?_append_cons hn] at h
    exact absurd h (by simp)
  · intro hc
    rw [Option.eq_none_iff_forall_ne_some]
    rintro ⟨a, b⟩ h
    obtain ⟨rfl, -⟩ := Text.eq_of_cutAt? h
    exact hc (by simp)

/-- Cut at another character, a line ends as its second part does. -/
theorem Text.cutAt?_dropReturn (hc : c ≠ '\r') (l : List Char) :
    Text.cutAt? c (Text.dropReturn l) =
      (Text.cutAt? c l).map fun r => (r.1, Text.dropReturn r.2) := by
  cases h : Text.cutAt? c l with
  | none =>
    rw [Text.cutAt?_eq_none_iff] at h
    exact Text.cutAt?_eq_none_iff.2 fun hm => h (Text.mem_of_mem_dropReturn hm)
  | some r =>
    obtain ⟨a, b⟩ := r
    obtain ⟨rfl, hn⟩ := Text.eq_of_cutAt? h
    rw [Text.dropReturn_append_cons hc, Text.cutAt?_append_cons hn]
    rfl

theorem Assignment.ofLine?_eq_some_iff {a : Assignment} :
    ofLine? line = some a ↔
      Text.cutAt? '=' line = some (a.name, a.value) ∧ isName a.name = true := by
  unfold ofLine?
  cases Text.cutAt? '=' line with
  | none => simp
  | some r =>
    obtain ⟨name, value⟩ := r
    simp only [Option.ite_none_right_eq_some, Option.some.injEq, Prod.mk.injEq]
    constructor
    · rintro ⟨hn, rfl⟩
      exact ⟨⟨rfl, rfl⟩, hn⟩
    · rintro ⟨⟨rfl, rfl⟩, hn⟩
      exact ⟨hn, rfl⟩

/-- A carriage return at the end of a line is part of the value. -/
theorem Assignment.ofLine?_dropReturn (line : List Char) :
    ofLine? (Text.dropReturn line) =
      (ofLine? line).map fun a => ⟨a.name, Text.dropReturn a.value⟩ := by
  unfold ofLine?
  rw [Text.cutAt?_dropReturn (by decide)]
  cases Text.cutAt? '=' line with
  | none => rfl
  | some r => by_cases hn : isName r.1 <;> simp [hn]

end Lines

namespace EnvFile

variable {f : EnvFile} {existing name value : String} {line : List Char} {lines : List (List Char)}
  {v : String × String} {a : Assignment}

section Variables

/-- The assignment of a variable. -/
def assignmentOf (v : String × String) : Assignment := ⟨v.1.toList, v.2.toList⟩

theorem mem_vars_iff : name ∈ f.vars ↔ ∃ value, f.vars[name]? = some value := by
  rw [Std.ExtTreeMap.mem_iff_isSome_getElem?, Option.isSome_iff_exists]

/-- The variables of a file that passes its check can be written. -/
theorem fits_of_check (hf : f.check = .ok ()) (hv : f.vars[name]? = some value) :
    isName name.toList = true ∧ isValue value.toList = true :=
  valid_iff_check.2 hf name value hv

/-- A name comes before the next one. -/
theorem pairwise_vars (vars : Variables) : vars.toList.Pairwise (·.1 < ·.1) :=
  Std.ExtTreeMap.ordered_keys_toList.imp fun hlt => compare_lt_iff_lt.1 hlt

theorem notMem_lineOf_of_check (hf : f.check = .ok ()) (hv : f.vars[v.1]? = some v.2) :
    '\n' ∉ lineOf v ∧ '\r' ∉ lineOf v :=
  notMem_lineOf (fits_of_check hf hv).1 (fits_of_check hf hv).2

theorem ofLine?_lineOf (h : isName v.1.toList = true) :
    Assignment.ofLine? (lineOf v) = some (assignmentOf v) :=
  Assignment.ofLine?_eq_some_iff.2 ⟨cutAt?_lineOf h, h⟩

/-- The variable that a line assigns is found under the name in the line. -/
theorem assigned?_eq (f : EnvFile) (line : List Char) :
    f.assigned? line = (Assignment.ofLine? line).bind fun a =>
      f.vars[String.ofList a.name]?.map fun value => (String.ofList a.name, value) := by
  unfold assigned?
  cases Assignment.ofLine? line with
  | none => rfl
  | some a => cases h : f.vars[String.ofList a.name]? <;> simp [h]

theorem assigned?_eq_some_iff :
    f.assigned? line = some v ↔ f.vars[v.1]? = some v.2 ∧
      ∃ a, Assignment.ofLine? line = some a ∧ a.name = v.1.toList := by
  rw [assigned?_eq, Option.bind_eq_some_iff]
  constructor
  · rintro ⟨a, ha, hv⟩
    obtain ⟨value, hvalue, rfl⟩ := Option.map_eq_some_iff.1 hv
    exact ⟨hvalue, a, ha, (String.toList_ofList).symm⟩
  · rintro ⟨hv, a, ha, hn⟩
    refine ⟨a, ha, ?_⟩
    rw [hn, String.ofList_toList, hv]
    rfl

/-- A carriage return at its end does not matter to which variable a line assigns. -/
theorem assigned?_dropReturn (f : EnvFile) (line : List Char) :
    f.assigned? (Text.dropReturn line) = f.assigned? line := by
  rw [assigned?_eq, assigned?_eq, Assignment.ofLine?_dropReturn]
  cases Assignment.ofLine? line <;> rfl

end Variables

section Merged

/-- The lines of a merged content: those of the content brought up to date, and behind them one for
each variable that they leave unassigned. -/
def mergedLines (f : EnvFile) (lines : List (List Char)) : List (List Char) :=
  lines.map f.updateLine ++ (f.unassigned lines).map lineOf

theorem merge_of_check (hf : f.check = .ok ()) (existing : String) :
    f.merge existing =
      .ok (String.ofList (unlines (f.mergedLines (Text.lines existing.toList)))) := by
  unfold merge
  rw [hf]
  rfl

theorem getElem?_of_mem_unassigned (h : v ∈ f.unassigned lines) : f.vars[v.1]? = some v.2 :=
  Std.ExtTreeMap.mem_toList_iff_getElem?_eq_some.1 (List.mem_filter.1 h).1

theorem updateLine_of_assigned? (h : f.assigned? line = some v) : f.updateLine line = lineOf v := by
  unfold updateLine
  rw [h]

theorem updateLine_of_none (h : f.assigned? line = none) : f.updateLine line = line := by
  unfold updateLine
  rw [h]

/-- A line brought up to date is the line itself or that of a variable. -/
theorem updateLine_cases (f : EnvFile) (line : List Char) :
    (f.assigned? line = none ∧ f.updateLine line = line) ∨
      ∃ v, f.assigned? line = some v ∧ f.updateLine line = lineOf v := by
  cases h : f.assigned? line with
  | none => exact .inl ⟨rfl, updateLine_of_none h⟩
  | some v => exact .inr ⟨v, rfl, updateLine_of_assigned? h⟩

theorem newline_notMem_mergedLines (hf : f.check = .ok ()) (hl : ∀ l ∈ lines, '\n' ∉ l) :
    ∀ l ∈ f.mergedLines lines, '\n' ∉ l := by
  intro l h
  rcases List.mem_append.1 h with h | h
  · obtain ⟨line, hline, rfl⟩ := List.mem_map.1 h
    rcases f.updateLine_cases line with ⟨-, he⟩ | ⟨v, hv, he⟩
    · rw [he]
      exact hl line hline
    · rw [he]
      exact (notMem_lineOf_of_check hf (assigned?_eq_some_iff.1 hv).1).1
  · obtain ⟨v, hv, rfl⟩ := List.mem_map.1 h
    exact (notMem_lineOf_of_check hf (getElem?_of_mem_unassigned hv)).1

/-- **The lines of a merged content are read back**, less a carriage return at their ends. -/
theorem lines_mergedLines (hf : f.check = .ok ()) (content : List Char) :
    Text.lines (unlines (f.mergedLines (Text.lines content))) =
      (f.mergedLines (Text.lines content)).map Text.dropReturn :=
  Text.lines_unlines (newline_notMem_mergedLines hf fun _ => Text.newline_notMem_lines)

/-- A variable of the file has no carriage return to lose. -/
theorem dropReturn_lineOf (hf : f.check = .ok ()) (hv : f.vars[v.1]? = some v.2) :
    Text.dropReturn (lineOf v) = lineOf v :=
  Text.dropReturn_of_notMem (notMem_lineOf_of_check hf hv).2

end Merged

section ReadBack

/-- An assignment after a merge: a variable of the file has the value of the file, any other keeps
its own, up to a carriage return. -/
def refreshed (f : EnvFile) (a : Assignment) : Assignment :=
  match f.vars[String.ofList a.name]? with
  | some value => ⟨a.name, value.toList⟩
  | none => ⟨a.name, Text.dropReturn a.value⟩

theorem refreshed_of_mem (h : f.vars[String.ofList a.name]? = some value) :
    f.refreshed a = ⟨a.name, value.toList⟩ := by
  unfold refreshed
  rw [h]

/-- The assignment to a variable of the file becomes that of the variable. -/
theorem refreshed_of_name (hn : a.name = v.1.toList) (hv : f.vars[v.1]? = some v.2) :
    f.refreshed a = assignmentOf v := by
  have hname : f.vars[String.ofList a.name]? = some v.2 := by
    rw [hn, String.ofList_toList, hv]
  rw [refreshed_of_mem hname, hn]
  rfl

theorem refreshed_of_none (h : f.vars[String.ofList a.name]? = none) :
    f.refreshed a = ⟨a.name, Text.dropReturn a.value⟩ := by
  unfold refreshed
  rw [h]

theorem name_refreshed (f : EnvFile) (a : Assignment) : (f.refreshed a).name = a.name := by
  unfold refreshed
  split <;> rfl

/-- **What a line assigns once it is brought up to date and read again.** -/
theorem ofLine?_updateLine (hf : f.check = .ok ()) (line : List Char) :
    Assignment.ofLine? (Text.dropReturn (f.updateLine line)) =
      (Assignment.ofLine? line).map f.refreshed := by
  rcases f.updateLine_cases line with ⟨hnone, he⟩ | ⟨v, hv, he⟩
  · -- a line kept as it is assigns nothing or another name
    rw [he, Assignment.ofLine?_dropReturn]
    rw [assigned?_eq] at hnone
    cases ha : Assignment.ofLine? line with
    | none => rfl
    | some a =>
      rw [ha, Option.bind_some, Option.map_eq_none_iff] at hnone
      rw [Option.map_some, Option.map_some, refreshed_of_none hnone]
  · obtain ⟨hvar, a, ha, hn⟩ := assigned?_eq_some_iff.1 hv
    rw [he, dropReturn_lineOf hf hvar, ofLine?_lineOf (fits_of_check hf hvar).1, ha,
      Option.map_some, refreshed_of_name hn hvar]

/-- **The variables behind the lines** are those that no line assigns. -/
theorem mem_unassigned (content : List Char) :
    v ∈ f.unassigned (Text.lines content) ↔
      f.vars[v.1]? = some v.2 ∧ ∀ a ∈ Assignment.all content, a.name ≠ v.1.toList := by
  unfold unassigned Assignment.all
  rw [List.mem_filter, Std.ExtTreeMap.mem_toList_iff_getElem?_eq_some]
  refine and_congr_right fun hv => ?_
  simp only [Bool.not_eq_true', List.any_eq_false, List.mem_filterMap, beq_iff_eq]
  constructor
  · rintro h a ⟨line, hline, ha⟩ hn
    exact h v ⟨line, hline, assigned?_eq_some_iff.2 ⟨hv, a, ha, hn⟩⟩ rfl
  · rintro h w ⟨line, hline, hw⟩ hn
    obtain ⟨-, a, ha, hname⟩ := assigned?_eq_some_iff.1 hw
    exact h a ⟨line, hline, ha⟩ (by rw [hname, hn])

/-- The assignments of a merged content: those of the content, refreshed, and those of the variables
behind its lines. -/
theorem all_mergedLines (hf : f.check = .ok ()) (content : List Char) :
    Assignment.all (unlines (f.mergedLines (Text.lines content))) =
      (Assignment.all content).map f.refreshed ++
        (f.unassigned (Text.lines content)).map assignmentOf := by
  have hbehind : ∀ v ∈ f.unassigned (Text.lines content),
      Assignment.ofLine? (Text.dropReturn (lineOf v)) = some (assignmentOf v) := by
    intro v hv
    have hvar := getElem?_of_mem_unassigned hv
    rw [dropReturn_lineOf hf hvar, ofLine?_lineOf (fits_of_check hf hvar).1]
  unfold Assignment.all
  rw [lines_mergedLines hf, mergedLines, List.map_append, List.filterMap_append, List.map_map,
    List.map_map, List.filterMap_map, List.filterMap_map, List.map_filterMap]
  congr 1
  · exact List.filterMap_congr fun line _ => ofLine?_updateLine hf line
  · rw [← List.filterMap_eq_map]
    exact List.filterMap_congr hbehind

/-- Every variable of the file is assigned, by a line of the content or behind them. -/
theorem assignmentOf_mem_all (hf : f.check = .ok ()) (content : List Char)
    (hv : f.vars[v.1]? = some v.2) :
    assignmentOf v ∈ Assignment.all (unlines (f.mergedLines (Text.lines content))) := by
  rw [all_mergedLines hf, List.mem_append]
  by_cases h : ∃ a ∈ Assignment.all content, a.name = v.1.toList
  · obtain ⟨a, ha, hn⟩ := h
    exact .inl (List.mem_map.2 ⟨a, ha, refreshed_of_name hn hv⟩)
  · push Not at h
    exact .inr (List.mem_map_of_mem ((mem_unassigned content).2 ⟨hv, h⟩))

/-- No stale value of a variable is left. -/
theorem value_of_mem_all (hf : f.check = .ok ()) {content : List Char}
    (ha : a ∈ Assignment.all (unlines (f.mergedLines (Text.lines content))))
    (hv : f.vars[String.ofList a.name]? = some value) : a.value = value.toList := by
  rw [all_mergedLines hf, List.mem_append] at ha
  rcases ha with ha | ha
  · obtain ⟨b, -, rfl⟩ := List.mem_map.1 ha
    rw [name_refreshed] at hv
    rw [refreshed_of_mem hv]
  · obtain ⟨v, hmem, rfl⟩ := List.mem_map.1 ha
    have hvar := getElem?_of_mem_unassigned hmem
    unfold assignmentOf at hv ⊢
    rw [String.ofList_toList, hvar] at hv
    rw [Option.some.inj hv]

/-- Assignments to other names stay where they are among themselves, up to a carriage return. -/
theorem filter_all_mergedLines (hf : f.check = .ok ()) (content : List Char) :
    (Assignment.all (unlines (f.mergedLines (Text.lines content)))).filter
        (fun a => String.ofList a.name ∉ f.vars) =
      ((Assignment.all content).filter fun a => String.ofList a.name ∉ f.vars).map
        fun a => ⟨a.name, Text.dropReturn a.value⟩ := by
  have hbehind : ((f.unassigned (Text.lines content)).map assignmentOf).filter
      (fun a => String.ofList a.name ∉ f.vars) = [] := by
    rw [List.filter_eq_nil_iff]
    intro a ha
    obtain ⟨v, hv, rfl⟩ := List.mem_map.1 ha
    have hmem := mem_vars_iff.2 ⟨_, getElem?_of_mem_unassigned hv⟩
    simpa [assignmentOf] using hmem
  rw [all_mergedLines hf, List.filter_append, hbehind, List.append_nil, List.filter_map]
  -- names stay, so the filter goes through the refreshing
  have hname : (fun a : Assignment => decide (String.ofList a.name ∉ f.vars)) ∘ f.refreshed =
      fun a => decide (String.ofList a.name ∉ f.vars) := by
    funext a
    rw [Function.comp_apply, name_refreshed]
  rw [hname]
  refine List.map_congr_left fun a ha => refreshed_of_none (Std.ExtTreeMap.getElem?_eq_none ?_)
  simpa using (List.mem_filter.1 ha).2

/-- **What a merged content assigns.** A file that passes its check is merged into every text. The
merged text assigns what the text did, in the same order and to the same names: a variable of the file
gets the value of the file, any other name keeps its value up to a carriage return at the end. Behind
them stands one assignment for each variable that the text leaves unassigned, by ascending names.
So each variable is assigned, no other value of it is left, and the assignments to other names are
those of the text. -/
theorem assignments_merge (f : EnvFile) (hf : f.check = .ok ()) (existing : String) :
    ∃ (merged : String) (added : List (String × String)), f.merge existing = .ok merged ∧
      Assignment.all merged.toList =
        (Assignment.all existing.toList).map f.refreshed ++ added.map assignmentOf ∧
      added.Pairwise (·.1 < ·.1) ∧
      (∀ v, v ∈ added ↔ f.vars[v.1]? = some v.2 ∧
        ∀ a ∈ Assignment.all existing.toList, a.name ≠ v.1.toList) ∧
      (∀ name value : String, f.vars[name]? = some value →
        ⟨name.toList, value.toList⟩ ∈ Assignment.all merged.toList) ∧
      (∀ a ∈ Assignment.all merged.toList, ∀ value,
        f.vars[String.ofList a.name]? = some value → a.value = value.toList) ∧
      (Assignment.all merged.toList).filter (fun a => String.ofList a.name ∉ f.vars) =
        ((Assignment.all existing.toList).filter fun a => String.ofList a.name ∉ f.vars).map
          fun a => ⟨a.name, Text.dropReturn a.value⟩ := by
  refine ⟨_, f.unassigned (Text.lines existing.toList), merge_of_check hf existing, ?_⟩
  rw [String.toList_ofList]
  refine ⟨all_mergedLines hf _, (pairwise_vars f.vars).filter _, fun v => mem_unassigned _,
    fun name value hv => assignmentOf_mem_all hf _ (v := (name, value)) hv,
    fun a ha value hv => value_of_mem_all hf ha hv, filter_all_mergedLines hf _⟩

/-- The file of the given variables. -/
def ofRows (rows : List (String × String)) : EnvFile := ⟨environmentPath, fill rows⟩

/-- A text without a newline at its end assigns one variable twice, another not at all, and ends a
foreign value with two carriage returns. -/
theorem assignments_merge_returns :
    ∃ merged, (ofRows [("A", "1"), ("C", "3")]).merge "A=0\n#\nB=2\r\r\nA=" = .ok merged ∧
      ⟨['C'], ['3']⟩ ∈ Assignment.all merged.toList ∧
      (Assignment.all merged.toList).filter
        (fun a => String.ofList a.name ∉ (ofRows [("A", "1"), ("C", "3")]).vars) =
          [⟨['B'], ['2']⟩] := by
  have hf : (ofRows [("A", "1"), ("C", "3")]).check = .ok () := by decide +kernel
  obtain ⟨merged, added, hm, -, -, -, hassigned, -, hforeign⟩ :=
    assignments_merge (ofRows [("A", "1"), ("C", "3")]) hf "A=0\n#\nB=2\r\r\nA="
  refine ⟨merged, hm, hassigned "C" "3" (by decide +kernel), ?_⟩
  rw [hforeign]
  decide +kernel

end ReadBack

end EnvFile

end BootEnv
