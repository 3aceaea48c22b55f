import BootEnv.Proofs.Merge
import Mathlib.Data.List.Sort

/-!
# Merging again

A content that was merged is merged once more, with a file that carries the same names. The lines of
those names are there already and are written anew; behind the lines nothing is left to add, because
the first file left no name unassigned; and every other line is written back as it is read, a carriage
return shorter when it had one at its end. So the second file alone would have given the same text,
with those carriage returns still in it.

* `updateLine_updateLine`: **a line brought up to date twice is as the second file alone leaves it.**
* `map_fst_unassigned_congr`: files with the same names have the same names to add.
* `mergedLines_mergedLines`: all lines of a content that is merged twice.
* `merge_merge`: a text merged twice.
* `merge_supersedes`: **a later merge supersedes an earlier one, up to carriage returns.**
* `merge_idempotent_iff`: when merging a file again changes nothing.
-/

namespace BootEnv

namespace EnvFile

/-- The files carry the same names. -/
def SameNames (e e' : EnvFile) : Prop := ∀ name, name ∈ e.vars ↔ name ∈ e'.vars

variable {e e' : EnvFile} {name value : String} {line : List Char} {v w : String × String}

section Line

theorem SameNames.symm (hn : e.SameNames e') : e'.SameNames e := fun name => (hn name).symm

theorem SameNames.exists_value (hn : e.SameNames e') (hv : e.vars[name]? = some value) :
    ∃ value', e'.vars[name]? = some value' :=
  mem_vars_iff.1 ((hn name).1 (mem_vars_iff.2 ⟨value, hv⟩))

/-- A line that assigns a variable of the one file assigns the variable of that name of the other. -/
theorem SameNames.exists_assigned? (hn : e.SameNames e') (h : e.assigned? line = some v) :
    ∃ w, e'.assigned? line = some w ∧ w.1 = v.1 := by
  obtain ⟨hv, a, ha, hname⟩ := assigned?_eq_some_iff.1 h
  obtain ⟨value, hvalue⟩ := hn.exists_value hv
  exact ⟨(v.1, value), assigned?_eq_some_iff.2 ⟨hvalue, a, ha, hname⟩, rfl⟩

theorem SameNames.assigned?_eq_none (hn : e.SameNames e') (h : e.assigned? line = none) :
    e'.assigned? line = none := by
  rw [Option.eq_none_iff_forall_ne_some]
  intro w hw
  obtain ⟨v, hv, -⟩ := hn.symm.exists_assigned? hw
  rw [h] at hv
  exact absurd hv (by simp)

/-- The line of a variable is brought up to date as the line of the other file's variable. -/
theorem updateLine_lineOf (hn : isName v.1.toList = true) (hw : e'.vars[w.1]? = some w.2)
    (hname : w.1 = v.1) : e'.updateLine (lineOf v) = lineOf w := by
  refine updateLine_of_assigned? (assigned?_eq_some_iff.2 ⟨hw, assignmentOf v, ofLine?_lineOf hn, ?_⟩)
  rw [hname]
  rfl

/-- **A line brought up to date twice is as the second file alone leaves it**, up to a carriage
return. -/
theorem updateLine_updateLine (he : e.check = .ok ()) (he' : e'.check = .ok ())
    (hn : e.SameNames e') (line : List Char) :
    e'.updateLine (Text.dropReturn (e.updateLine line)) =
      Text.dropReturn (e'.updateLine line) := by
  rcases e.updateLine_cases line with ⟨hnone, hl⟩ | ⟨v, hv, hl⟩
  · have hnone' := hn.assigned?_eq_none hnone
    have hdrop : e'.assigned? (Text.dropReturn line) = none := by
      rw [assigned?_dropReturn, hnone']
    rw [hl, updateLine_of_none hdrop, updateLine_of_none hnone']
  · have hvar := (assigned?_eq_some_iff.1 hv).1
    obtain ⟨w, hw, hname⟩ := hn.exists_assigned? hv
    have hvar' := (assigned?_eq_some_iff.1 hw).1
    rw [hl, dropReturn_lineOf he hvar, updateLine_of_assigned? hw, dropReturn_lineOf he' hvar',
      updateLine_lineOf (fits_of_check he hvar).1 hvar' hname]

end Line

section Behind

/-- The names to add are those of the file that the content does not assign. -/
theorem mem_map_fst_unassigned (content : List Char) :
    name ∈ (e.unassigned (Text.lines content)).map Prod.fst ↔
      name ∈ e.vars ∧ ∀ a ∈ Assignment.all content, a.name ≠ name.toList := by
  rw [List.mem_map, mem_vars_iff]
  constructor
  · rintro ⟨v, hv, rfl⟩
    obtain ⟨hvar, hnot⟩ := (mem_unassigned content).1 hv
    exact ⟨⟨v.2, hvar⟩, hnot⟩
  · rintro ⟨⟨value, hvar⟩, hnot⟩
    exact ⟨(name, value), (mem_unassigned content).2 ⟨hvar, hnot⟩, rfl⟩

theorem pairwise_map_fst_unassigned (e : EnvFile) (lines : List (List Char)) :
    ((e.unassigned lines).map Prod.fst).Pairwise (· < ·) :=
  List.pairwise_map.2 ((pairwise_vars e.vars).filter _)

/-- **Files with the same names have the same names to add**, and in the same order. -/
theorem map_fst_unassigned_congr (hn : e.SameNames e') (content : List Char) :
    (e.unassigned (Text.lines content)).map Prod.fst =
      (e'.unassigned (Text.lines content)).map Prod.fst := by
  refine (pairwise_map_fst_unassigned e _).eq_of_mem_iff (pairwise_map_fst_unassigned e' _) ?_
  intro name
  rw [mem_map_fst_unassigned, mem_map_fst_unassigned, hn name]

/-- The line that the file writes for a name. -/
def lineFor (e : EnvFile) (name : String) : List Char := lineOf (name, (e.vars[name]?).getD "")

theorem lineOf_eq_lineFor (hv : e.vars[v.1]? = some v.2) : lineOf v = e.lineFor v.1 := by
  unfold lineFor
  rw [hv]
  rfl

/-- What the first file adds is brought up to date to what the second file alone would add. -/
theorem map_updateLine_unassigned (he : e.check = .ok ()) (he' : e'.check = .ok ())
    (hn : e.SameNames e') (content : List Char) :
    (e.unassigned (Text.lines content)).map (fun v => e'.updateLine (Text.dropReturn (lineOf v))) =
      (e'.unassigned (Text.lines content)).map fun v => Text.dropReturn (lineOf v) := by
  -- either side depends on the names alone, which are the same
  have hleft : ∀ v ∈ e.unassigned (Text.lines content),
      e'.updateLine (Text.dropReturn (lineOf v)) = e'.lineFor v.1 := by
    intro v hv
    have hvar := getElem?_of_mem_unassigned hv
    obtain ⟨value, hvalue⟩ := hn.exists_value hvar
    rw [dropReturn_lineOf he hvar,
      updateLine_lineOf (w := (v.1, value)) (fits_of_check he hvar).1 hvalue rfl,
      lineOf_eq_lineFor hvalue]
  have hright : ∀ v ∈ e'.unassigned (Text.lines content),
      Text.dropReturn (lineOf v) = e'.lineFor v.1 := by
    intro v hv
    have hvar := getElem?_of_mem_unassigned hv
    rw [dropReturn_lineOf he' hvar, lineOf_eq_lineFor hvar]
  calc (e.unassigned (Text.lines content)).map
        (fun v => e'.updateLine (Text.dropReturn (lineOf v)))
      = ((e.unassigned (Text.lines content)).map Prod.fst).map e'.lineFor := by
        rw [List.map_map]
        exact List.map_congr_left hleft
    _ = ((e'.unassigned (Text.lines content)).map Prod.fst).map e'.lineFor := by
        rw [map_fst_unassigned_congr hn]
    _ = (e'.unassigned (Text.lines content)).map fun v => Text.dropReturn (lineOf v) := by
        rw [List.map_map]
        exact (List.map_congr_left hright).symm

/-- The first file leaves no name of the second one unassigned. -/
theorem unassigned_mergedLines (he : e.check = .ok ()) (hn : e.SameNames e') (content : List Char) :
    e'.unassigned (Text.lines (unlines (e.mergedLines (Text.lines content)))) = [] := by
  rw [List.eq_nil_iff_forall_not_mem]
  intro v hv
  obtain ⟨hvar, hnot⟩ := (mem_unassigned _).1 hv
  obtain ⟨value, hvalue⟩ := hn.symm.exists_value hvar
  exact hnot _ (assignmentOf_mem_all (v := (v.1, value)) he content hvalue) rfl

end Behind

section Twice

/-- **All lines of a content that is merged twice** are those that the second file alone gives, up to
carriage returns. -/
theorem mergedLines_mergedLines (he : e.check = .ok ()) (he' : e'.check = .ok ())
    (hn : e.SameNames e') (content : List Char) :
    e'.mergedLines (Text.lines (unlines (e.mergedLines (Text.lines content)))) =
      (e'.mergedLines (Text.lines content)).map Text.dropReturn := by
  rw [mergedLines, unassigned_mergedLines he hn, List.map_nil, List.append_nil,
    lines_mergedLines he]
  simp only [mergedLines, List.map_append, List.map_map]
  congr 1
  · exact List.map_congr_left fun line _ => updateLine_updateLine he he' hn line
  · exact map_updateLine_unassigned he he' hn content

theorem length_mergedLines_congr (hn : e.SameNames e') (content : List Char) :
    (e.mergedLines (Text.lines content)).length = (e'.mergedLines (Text.lines content)).length := by
  have hlen := congrArg List.length (map_fst_unassigned_congr hn content)
  rw [List.length_map, List.length_map] at hlen
  simp only [mergedLines, List.length_append, List.length_map, hlen]

/-- A text merged twice is what the second file alone gives, less carriage returns before newlines. -/
theorem merge_merge (he : e.check = .ok ()) (he' : e'.check = .ok ()) (hn : e.SameNames e')
    {existing first direct : String} (hfirst : e.merge existing = .ok first)
    (hdirect : e'.merge existing = .ok direct) :
    e'.merge first = .ok (String.ofList (Text.dropReturns direct.toList)) := by
  rw [merge_of_check he, Except.ok.injEq] at hfirst
  rw [merge_of_check he', Except.ok.injEq] at hdirect
  subst hfirst hdirect
  rw [merge_of_check he', String.toList_ofList, String.toList_ofList,
    mergedLines_mergedLines he he' hn, Text.dropReturns_unlines]
  exact newline_notMem_mergedLines he' fun _ => Text.newline_notMem_lines

/-- **When merging a file again changes nothing**: when the merged text has no carriage return before
a newline. -/
theorem merge_idempotent_iff (he : e.check = .ok ()) {existing merged : String}
    (h : e.merge existing = .ok merged) :
    e.merge merged = .ok merged ↔ ¬ ['\r', '\n'] <:+: merged.toList := by
  rw [merge_merge he he (fun _ => Iff.rfl) h h, ← Text.dropReturns_eq_self_iff, Except.ok.injEq,
    ← String.toList_inj, String.toList_ofList]

/-- **A later merge supersedes an earlier one.** Let two files carry the same names and pass their
checks. Merging the second one into what the first one gave is merging it into the text itself, less
one carriage return before each newline that has one; so it is the same exactly when the second file
alone leaves no carriage return before a newline. The second merge adds no line. -/
theorem merge_supersedes (e e' : EnvFile) (he : e.check = .ok ()) (he' : e'.check = .ok ())
    (hn : ∀ name, name ∈ e.vars ↔ name ∈ e'.vars) (existing : String) :
    ∃ first direct second, e.merge existing = .ok first ∧ e'.merge existing = .ok direct ∧
      e'.merge first = .ok second ∧
      second.toList = Text.dropReturns direct.toList ∧
      (second = direct ↔ ¬ ['\r', '\n'] <:+: direct.toList) ∧
      e'.unassigned (Text.lines first.toList) = [] ∧
      second.toList.count '\n' = first.toList.count '\n' := by
  have hfirst := merge_of_check he existing
  have hdirect := merge_of_check he' existing
  have hlines : ∀ l ∈ Text.lines existing.toList, '\n' ∉ l := fun _ => Text.newline_notMem_lines
  refine ⟨_, _, _, hfirst, hdirect, merge_merge he he' hn hfirst hdirect, ?_, ?_, ?_, ?_⟩
  · rw [String.toList_ofList]
  · rw [← Text.dropReturns_eq_self_iff, ← String.toList_inj, String.toList_ofList]
  · rw [String.toList_ofList]
    exact unassigned_mergedLines he hn _
  · rw [String.toList_ofList, String.toList_ofList, String.toList_ofList, Text.count_dropReturns,
      Text.count_unlines (newline_notMem_mergedLines he' hlines),
      Text.count_unlines (newline_notMem_mergedLines he hlines), length_mergedLines_congr hn]

/-- A foreign line that ends in two carriage returns loses one at each merge. -/
theorem merge_supersedes_returns :
    ∃ first second, (ofRows [("A", "1"), ("B", "2")]).merge "X=1\r\r\nA=0" = .ok first ∧
      (ofRows [("A", "3"), ("B", "4")]).merge first = .ok second ∧
      second.toList = "X=1\nA=3\nB=4\n".toList := by
  have hn : ∀ name, name ∈ (ofRows [("A", "1"), ("B", "2")]).vars ↔
      name ∈ (ofRows [("A", "3"), ("B", "4")]).vars := by
    intro name
    simp [ofRows, mem_fill]
  obtain ⟨first, direct, second, hfirst, hdirect, hsecond, hreturns, -⟩ :=
    merge_supersedes (ofRows [("A", "1"), ("B", "2")]) (ofRows [("A", "3"), ("B", "4")])
      (by decide +kernel) (by decide +kernel) hn "X=1\r\r\nA=0"
  have halone : (ofRows [("A", "3"), ("B", "4")]).merge "X=1\r\r\nA=0" =
      .ok "X=1\r\nA=3\nB=4\n" := by decide +kernel
  rw [halone, Except.ok.injEq] at hdirect
  refine ⟨first, second, hfirst, hsecond, ?_⟩
  rw [hreturns, ← hdirect]
  decide +kernel

end Twice

end EnvFile

end BootEnv
