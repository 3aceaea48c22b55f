import BootEnv.EnvFile
import BootEnv.Lookup
import Mathlib.Data.List.Basic

/-!
# What a written file reads as

A file that can be written is read back line by line, each line cut at its first equals sign. A name
has no equals sign and neither a name nor a value can end its line, so nothing gets lost.

* `lines_unlines`: lines without newlines are read back, less a carriage return at their ends.
* `Valid`: a file whose variables can all be written, which is what its check tells.
* `render_eq_ok_iff`: when a file can be written, and what is written.
* `Lookup.ofContent`: the variables that a content assigns.
* `ofContent_of_render`: **the content of a file assigns just the variables of the file.**
-/

namespace BootEnv

namespace Text

open EnvFile (unlines)

variable {ls : List (List Char)}

theorem unlines_cons (l : List Char) (ls : List (List Char)) :
    unlines (l :: ls) = l ++ '\n' :: unlines ls := by
  simp [unlines]

/-- A text without newlines is its only segment. -/
theorem segments_newline {l : List Char} (h : '\n' ∉ l) : segments (· == '\n') l = [l] := by
  refine segments_of_forall_not fun c hc => ?_
  rw [beq_eq_false_iff_ne]
  rintro rfl
  exact h hc

theorem segments_unlines (h : ∀ l ∈ ls, '\n' ∉ l) :
    segments (· == '\n') (unlines ls) = ls ++ [[]] := by
  induction ls with
  | nil => rfl
  | cons l ls ih =>
    rw [unlines_cons, segments_append_cons (by rfl), segments_newline (h l List.mem_cons_self),
      ih fun l' hl' => h l' (List.mem_cons_of_mem l hl')]
    rfl

/-- The empty segment behind the last newline is no line. -/
theorem endLines_concat_nil (ls : List (List Char)) :
    endLines (ls ++ [[]]) = ls.map dropReturn := by
  induction ls with
  | nil => rfl
  | cons l ls ih =>
    rw [List.cons_append, List.map_cons, ← ih]
    cases ls <;> rfl

/-- **Lines without newlines are read back**, less a carriage return at their ends. -/
theorem lines_unlines (h : ∀ l ∈ ls, '\n' ∉ l) : lines (unlines ls) = ls.map dropReturn := by
  unfold lines
  rw [segments_unlines h, endLines_concat_nil]

theorem dropReturn_of_notMem {l : List Char} (h : '\r' ∉ l) : dropReturn l = l := by
  unfold dropReturn
  split
  next hlast => exact absurd (List.mem_of_getLast? hlast) h
  · rfl

end Text

/-- The variables that a content assigns, when each line is cut at its first equals sign. -/
def Lookup.ofContent (content : String) : Lookup := fun name =>
  (((Text.lines content.toList).filterMap (Text.cutAt? '=')).lookup name.toList).map String.ofList

namespace EnvFile

variable {f : EnvFile} {content : String} {v : String × String}

/-- A name has none of the characters that a line is made with. -/
theorem notMem_of_isName {cs : List Char} (h : isName cs = true) {c : Char}
    (hc : isNameChar c = false) : c ∉ cs := by
  intro hmem
  unfold isName at h
  rw [Bool.and_eq_true, List.all_eq_true] at h
  rw [h.2 c hmem] at hc
  exact absurd hc (by decide)

theorem notMem_of_isValue {cs : List Char} (h : isValue cs = true) : '\n' ∉ cs ∧ '\r' ∉ cs := by
  unfold isValue at h
  simp only [Bool.not_eq_true', Bool.or_eq_false_iff, List.contains_eq_mem,
    decide_eq_false_iff_not] at h
  exact h.1

theorem refusal?_eq_none_iff {name value : String} :
    refusal? name value = none ↔ isName name.toList = true ∧ isValue value.toList = true := by
  unfold refusal?
  cases isName name.toList <;> cases isValue value.toList <;> simp

theorem check_eq_ok_iff : f.check = .ok () ↔
    ∀ v ∈ f.vars.toList, isName v.1.toList = true ∧ isValue v.2.toList = true := by
  have hnone : (f.vars.toList.findSome? fun v => refusal? v.1 v.2) = none ↔
      ∀ v ∈ f.vars.toList, isName v.1.toList = true ∧ isValue v.2.toList = true := by
    rw [List.findSome?_eq_none_iff]
    exact forall₂_congr fun v _ => refusal?_eq_none_iff
  rw [← hnone]
  unfold check
  split <;> simp_all

/-- All names are made of ASCII letters, digits and underscores, and no value holds a newline, a
carriage return or a NUL. -/
def Valid (f : EnvFile) : Prop :=
  ∀ name value : String, f.vars[name]? = some value →
    isName name.toList = true ∧ isValue value.toList = true

theorem valid_iff_check : f.Valid ↔ f.check = .ok () := by
  rw [check_eq_ok_iff]
  constructor
  · intro h v hv
    exact h v.1 v.2 (Std.ExtTreeMap.mem_toList_iff_getElem?_eq_some.1 hv)
  · intro h name value hv
    exact h (name, value) (Std.ExtTreeMap.mem_toList_iff_getElem?_eq_some.2 hv)

/-- **A file can be written when all its variables can**, and then it is a line for each of them. -/
theorem render_eq_ok_iff : f.render = .ok content ↔
    (∀ v ∈ f.vars.toList, isName v.1.toList = true ∧ isValue v.2.toList = true) ∧
      content = String.ofList (unlines (f.vars.toList.map lineOf)) := by
  rw [← check_eq_ok_iff]
  unfold render
  cases f.check with
  | error r => simp [bind, Except.bind]
  | ok u => simp [bind, Except.bind, pure, Except.pure, eq_comm]

/-- A file that fails its check is neither written nor merged. -/
theorem refused_of_check {r : Refusal} (h : f.check = .error r) :
    f.render = .error r ∧ ∀ existing, f.merge existing = .error r := by
  unfold render merge
  rw [h]
  exact ⟨rfl, fun _ => rfl⟩

theorem cutAt?_lineOf (h : isName v.1.toList = true) :
    Text.cutAt? '=' (lineOf v) = some (v.1.toList, v.2.toList) := by
  unfold lineOf Assignment.toLine
  exact Text.cutAt?_append_cons (notMem_of_isName h (by decide)) _

theorem notMem_lineOf (hn : isName v.1.toList = true) (hv : isValue v.2.toList = true) :
    '\n' ∉ lineOf v ∧ '\r' ∉ lineOf v := by
  obtain ⟨hnewline, hreturn⟩ := notMem_of_isValue hv
  have hnewline' : '\n' ∉ v.1.toList := notMem_of_isName hn (by decide)
  have hreturn' : '\r' ∉ v.1.toList := notMem_of_isName hn (by decide)
  simp [lineOf, Assignment.toLine, hnewline, hreturn, hnewline', hreturn']

/-- The lines of a file that was written. -/
theorem lines_of_render (h : f.render = .ok content) :
    Text.lines content.toList = f.vars.toList.map lineOf := by
  obtain ⟨hvars, rfl⟩ := render_eq_ok_iff.1 h
  have hline : ∀ l ∈ f.vars.toList.map lineOf, '\n' ∉ l ∧ '\r' ∉ l := by
    intro l hl
    obtain ⟨v, hv, rfl⟩ := List.mem_map.1 hl
    exact notMem_lineOf (hvars v hv).1 (hvars v hv).2
  rw [String.toList_ofList, Text.lines_unlines fun l hl => (hline l hl).1]
  calc (f.vars.toList.map lineOf).map Text.dropReturn = (f.vars.toList.map lineOf).map id :=
        List.map_congr_left fun l hl => Text.dropReturn_of_notMem (hline l hl).2
    _ = f.vars.toList.map lineOf := List.map_id _

theorem lookup_toList (l : List (String × String)) (name : String) :
    (l.map fun v => (v.1.toList, v.2.toList)).lookup name.toList =
      (l.lookup name).map String.toList := by
  induction l with
  | nil => rfl
  | cons v l ih =>
    rw [List.map_cons, List.lookup_cons, List.lookup_cons, ih]
    by_cases h : name = v.1
    · simp [h]
    · have hname : (name == v.1) = false := by simpa using h
      have hchars : (name.toList == v.1.toList) = false := by
        simpa using fun he => h (String.toList_inj.1 he)
      rw [hname, hchars]

theorem lookup_vars (vars : Variables) (name : String) : vars.toList.lookup name = vars[name]? := by
  cases hl : vars.toList.lookup name with
  | none =>
    rw [eq_comm, Option.eq_none_iff_forall_ne_some]
    intro value hv
    rw [← Std.ExtTreeMap.mem_toList_iff_getElem?_eq_some] at hv
    simpa using List.lookup_eq_none_iff.1 hl _ hv
  | some value =>
    obtain ⟨a, b, hab, -⟩ := List.lookup_eq_some_iff.1 hl
    rw [eq_comm, ← Std.ExtTreeMap.mem_toList_iff_getElem?_eq_some, hab]
    exact List.mem_append_right a (.head b)

/-- **The content of a file assigns just the variables of the file.** -/
theorem ofContent_of_render (h : f.render = .ok content) (name : String) :
    Lookup.ofContent content name = f.vars[name]? := by
  obtain ⟨hvars, -⟩ := render_eq_ok_iff.1 h
  -- a name has no equals sign, so the first one of a line is behind the name
  have hcut : (f.vars.toList.map lineOf).filterMap (Text.cutAt? '=') =
      f.vars.toList.map fun v => (v.1.toList, v.2.toList) := by
    rw [List.filterMap_map, ← List.filterMap_eq_map]
    exact List.filterMap_congr fun v hv => cutAt?_lineOf (hvars v hv).1
  unfold Lookup.ofContent
  rw [lines_of_render h, hcut, lookup_toList, lookup_vars, Option.map_map]
  cases f.vars[name]? with
  | none => rfl
  | some value => simp

end EnvFile

end BootEnv
