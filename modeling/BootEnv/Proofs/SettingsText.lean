import BootEnv.Proofs.YamlDocument
import BootEnv.Settings.Reader
import Mathlib.Data.List.Forall2
import Mathlib.Data.List.Nodup

/-!
# Settings from lines

A document of lines is read entry by entry: the name of an entry must be that of a field, and no entry
before may have had it. What has been read is then set on the defaults, so an entry decides its own
field and no other.

* `Says`: what lines say of the fields.
* `readEntries_line_ok_iff`, `readEntries_lines_ok_iff`: **what one entry needs**, then all of them.
* `ofText_ok_iff`: **the settings of lines are those of what the lines say**, each field at most once.
* `get_ofFields_reverse`, `Says.lookup_eq_some`, `Says.lookup_eq_none`: what becomes of a field.
* `ofText_lines`: which lines make settings, and which ones.
-/

namespace BootEnv

open Yaml (Line nodesOfLines linesText)

theorem Field.ofName?_eq_some_iff {name : List Char} {f : Field} :
    Field.ofName? name = some f ↔ name = f.name.toList := by
  constructor
  · intro h
    have hname := List.find?_some h
    exact (of_decide_eq_true hname).symm
  · rintro rfl
    cases f <;> decide

theorem Field.name_inj {f g : Field} (h : f.name.toList = g.name.toList) : f = g := by
  revert h
  cases f <;> cases g <;> decide

theorem Field.exists_name_iff {name : List Char} : (∃ f : Field, f.name.toList = name) ↔
    String.ofList name ∈ ["root", "config_root", "workspace", "ssh_key_name", "route_table"] := by
  constructor
  · rintro ⟨f, rfl⟩
    rw [String.ofList_toList]
    cases f <;> decide
  · intro h
    have hall : ∀ n ∈ ["root", "config_root", "workspace", "ssh_key_name", "route_table"],
        ∃ f ∈ Field.all, f.name = n := by decide
    obtain ⟨f, -, hf⟩ := hall _ h
    exact ⟨f, by rw [hf, String.toList_ofList]⟩

/-- The names of fields are far below the limit for keys. -/
theorem Field.length_name_le (f : Field) : f.name.toList.length ≤ Yaml.Lexer.maxKey := by
  cases f <;> decide

namespace Settings

/-- The lines name fields, one line for each of them, and give them these texts. -/
def Says (es : Fields) (ks : List Line) : Prop :=
  List.Forall₂ (fun e k => e.1.name.toList = k.key ∧ e.2 = String.ofList k.value) es ks

variable {d : Yaml.Document} {seen fields es : Fields} {k : Line} {ks : List Line} {f : Field}
  {s : Settings}

section Says

theorem Says.map_key (h : Says es ks) :
    ks.map Line.key = (es.map Prod.fst).map fun f => f.name.toList := by
  induction h with
  | nil => rfl
  | cons hek _ ih => rw [List.map_cons, List.map_cons, List.map_cons, ih, hek.1]

/-- **Lines that name fields say something of them.** -/
theorem exists_says (h : ∀ k ∈ ks, ∃ f : Field, f.name.toList = k.key) : ∃ es, Says es ks := by
  induction ks with
  | nil => exact ⟨[], .nil⟩
  | cons k ks ih =>
    obtain ⟨f, hf⟩ := h k List.mem_cons_self
    obtain ⟨es, hes⟩ := ih fun x hx => h x (List.mem_cons_of_mem k hx)
    exact ⟨(f, String.ofList k.value) :: es, .cons ⟨hf, rfl⟩ hes⟩

theorem Says.exists_name (h : Says es ks) : ∀ k ∈ ks, ∃ f : Field, f.name.toList = k.key := by
  intro k hk
  have hkey : k.key ∈ (es.map Prod.fst).map fun f => f.name.toList := by
    rw [← h.map_key]
    exact List.mem_map_of_mem hk
  obtain ⟨f, -, hf⟩ := List.mem_map.1 hkey
  exact ⟨f, hf⟩

/-- Lines that name fields have no key beyond the limit. -/
theorem Says.areShort (h : Says es ks) : Yaml.AreShort ks := by
  intro k hk
  obtain ⟨f, hf⟩ := h.exists_name k hk
  rw [← hf]
  exact f.length_name_le

theorem Says.nodup_iff (h : Says es ks) : (es.map Prod.fst).Nodup ↔ (ks.map Line.key).Nodup := by
  rw [h.map_key, List.nodup_map_iff fun f g hfg => Field.name_inj hfg]

theorem Says.lookup_eq_none (h : Says es ks) (hf : ∀ k ∈ ks, k.key ≠ f.name.toList) :
    es.lookup f = none := by
  induction h with
  | nil => rfl
  | @cons e k es ks hek _ ih =>
    have hne : f ≠ e.1 := by
      rintro rfl
      exact hf k List.mem_cons_self hek.1.symm
    rw [List.lookup_cons, beq_false_of_ne hne]
    exact ih fun x hx => hf x (List.mem_cons_of_mem k hx)

theorem Says.lookup_eq_some (h : Says es ks) (hks : (ks.map Line.key).Nodup) (hk : k ∈ ks)
    (hf : k.key = f.name.toList) : es.lookup f = some (String.ofList k.value) := by
  induction h with
  | nil => exact absurd hk List.not_mem_nil
  | @cons e x es ks hex _ ih =>
    rw [List.map_cons, List.nodup_cons] at hks
    rw [List.lookup_cons]
    rcases List.mem_cons.1 hk with rfl | hk
    · obtain rfl : f = e.1 := Field.name_inj (hf.symm.trans hex.1.symm)
      rw [beq_self_eq_true, hex.2]
    · have hne : f ≠ e.1 := by
        rintro rfl
        exact hks.1 (List.mem_map.2 ⟨k, hk, hf.trans hex.1⟩)
      rw [beq_false_of_ne hne]
      exact ih hks.2 hk

end Says

section Read

theorem lookup_eq_none_iff_not_mem : seen.lookup f = none ↔ f ∉ seen.map Prod.fst := by
  simp only [List.lookup_eq_none_iff, bne_iff_ne, List.mem_map, not_exists, not_and]
  exact forall₂_congr fun e _ => ne_comm

theorem readName_ok_iff {name : Yaml.Scalar} :
    readName d seen (.node (.scalar none name)) = .ok f ↔
      name.text = f.name.toList ∧ seen.lookup f = none := by
  simp only [readName, Yaml.Document.node?]
  constructor
  · intro h
    split at h
    next => exact absurd h (by simp)
    next g hg =>
      split at h
      next => exact absurd h (by simp)
      next hnew =>
        obtain rfl : g = f := by simpa using h
        exact ⟨Field.ofName?_eq_some_iff.1 hg, Option.not_isSome_iff_eq_none.1 hnew⟩
  · rintro ⟨hname, hnew⟩
    simp only [Field.ofName?_eq_some_iff.2 hname, hnew, Option.isSome_none, Bool.false_eq_true,
      if_false]

theorem nodup_map_reverse_iff : (es.reverse.map Prod.fst).Nodup ↔ (es.map Prod.fst).Nodup := by
  rw [List.map_reverse, List.nodup_reverse]

/-- **One entry**: it names a field that is new. -/
theorem readEntries_line_ok_iff (ps : List Yaml.Part) :
    readEntries d seen (k.nodes.map .node ++ ps) = .ok fields ↔
      ∃ f : Field, k.key = f.name.toList ∧ seen.lookup f = none ∧
        readEntries d ((f, String.ofList k.value) :: seen) ps = .ok fields := by
  have hread : readEntries d seen (k.nodes.map .node ++ ps) =
      (readName d seen (.node (.scalar none ⟨k.key, true⟩))).bind fun f =>
        readEntries d ((f, String.ofList k.value) :: seen) ps := rfl
  rw [hread]
  constructor
  · intro h
    cases hname : readName d seen (.node (.scalar none ⟨k.key, true⟩)) with
    | error e =>
      rw [hname] at h
      exact absurd h (by simp [Except.bind])
    | ok f =>
      rw [hname] at h
      obtain ⟨hf, hnew⟩ := readName_ok_iff.1 hname
      exact ⟨f, hf, hnew, h⟩
  · rintro ⟨f, hf, hnew, h⟩
    rw [readName_ok_iff.2 ⟨hf, hnew⟩]
    exact h

/-- **All entries**: they name different fields, and none that was there before. -/
theorem readEntries_lines_ok_iff (hseen : (seen.map Prod.fst).Nodup) :
    readEntries d seen ((nodesOfLines ks).map .node ++ [.close]) = .ok fields ↔
      ∃ es, Says es ks ∧ fields = es.reverse ++ seen ∧ (fields.map Prod.fst).Nodup := by
  induction ks generalizing seen with
  | nil =>
    have hend : readEntries d seen ((nodesOfLines []).map .node ++ [.close]) = .ok seen := rfl
    rw [hend, Except.ok.injEq]
    constructor
    · rintro rfl
      exact ⟨[], .nil, rfl, hseen⟩
    · rintro ⟨es, hes, hfields, -⟩
      cases hes
      exact hfields.symm
  | cons k ks ih =>
    have hnodes : (nodesOfLines (k :: ks)).map Yaml.Part.node ++ [.close] =
        k.nodes.map .node ++ ((nodesOfLines ks).map .node ++ [.close]) := by
      simp [nodesOfLines]
    rw [hnodes, readEntries_line_ok_iff]
    constructor
    · rintro ⟨f, hf, hnew, hread⟩
      have hnodup : (((f, String.ofList k.value) :: seen).map Prod.fst).Nodup := by
        rw [List.map_cons, List.nodup_cons]
        exact ⟨lookup_eq_none_iff_not_mem.1 hnew, hseen⟩
      obtain ⟨es, hes, rfl, hall⟩ := (ih hnodup).1 hread
      refine ⟨(f, String.ofList k.value) :: es, .cons ⟨hf.symm, rfl⟩ hes, ?_, hall⟩
      simp
    · rintro ⟨es, hes, hfields, hall⟩
      obtain ⟨⟨f, v⟩, later, ⟨hf, rfl⟩, hlater, rfl⟩ := List.forall₂_cons_right_iff.1 hes
      -- what this line says stands behind what the later ones say
      rw [List.reverse_cons, List.append_assoc, List.singleton_append] at hfields
      have hnodup : (((f, String.ofList k.value) :: seen).map Prod.fst).Nodup := by
        rw [hfields, List.map_append] at hall
        exact hall.of_append_right
      refine ⟨f, hf.symm, ?_, (ih hnodup).2 ⟨later, hlater, hfields, hall⟩⟩
      rw [List.map_cons, List.nodup_cons] at hnodup
      exact lookup_eq_none_iff_not_mem.2 hnodup.1

theorem ofDocument_ok_iff : ofDocument d = .ok s ↔
    d.isComplete = true ∧ ∃ fields, readFields d = .ok fields ∧ s = ofFields fields := by
  rw [ofDocument]
  cases readFields d with
  | error e => simp [bind, Except.bind]
  | ok fields =>
    cases d.isComplete with
    | false => simp [bind, Except.bind, throw, throwThe, MonadExceptOf.throw]
    | true => simp [bind, Except.bind, pure, Except.pure, eq_comm]

theorem ofText_ok_iff_ofDocument {text : String} :
    ofText text = .ok s ↔ ofDocument (Yaml.Document.ofText text.toList) = .ok s := by
  rw [ofText, ofTextAt]
  cases ofDocument (Yaml.Document.ofText text.toList) <;> simp [Except.mapError]

theorem readFields_lines_ok_iff (isEnded : Bool) (h : Yaml.AreShort ks) :
    readFields (Yaml.Document.ofText (linesText isEnded ks)) = .ok fields ↔
      ∃ es, Says es ks ∧ fields = es.reverse ∧ (fields.map Prod.fst).Nodup := by
  have hread : readFields (Yaml.Document.ofText (linesText isEnded ks)) =
      readEntries (Yaml.Document.ofText (linesText isEnded ks)) []
        ((nodesOfLines ks).map .node ++ [.close]) := by
    cases ks with
    | nil =>
      rw [Yaml.Document.ofText_linesText_nil]
      rfl
    | cons k ks =>
      rw [Yaml.Document.ofText_linesText isEnded (List.cons_ne_nil k ks) h]
      rfl
  have hnone : (([] : Fields).map Prod.fst).Nodup := List.nodup_nil
  rw [hread, readEntries_lines_ok_iff hnone]
  simp only [List.append_nil]

/-- **The settings of lines are those of what the lines say**, of each field at most once. -/
theorem ofText_ok_iff (isEnded : Bool) :
    ofText (String.ofList (linesText isEnded ks)) = .ok s ↔
      ∃ es, Says es ks ∧ (es.map Prod.fst).Nodup ∧ s = ofFields es.reverse := by
  rw [ofText_ok_iff_ofDocument, String.toList_ofList, ofDocument_ok_iff]
  constructor
  · rintro ⟨hcomplete, fields, hfields, rfl⟩
    have hshort := (Yaml.Document.isComplete_ofText_linesText_iff isEnded).1 hcomplete
    obtain ⟨es, hes, rfl, hnodup⟩ := (readFields_lines_ok_iff isEnded hshort).1 hfields
    exact ⟨es, hes, nodup_map_reverse_iff.1 hnodup, rfl⟩
  · rintro ⟨es, hes, hnodup, rfl⟩
    have hshort := hes.areShort
    refine ⟨(Yaml.Document.isComplete_ofText_linesText_iff isEnded).2 hshort, es.reverse, ?_, rfl⟩
    exact (readFields_lines_ok_iff isEnded hshort).2 ⟨es, hes, rfl, nodup_map_reverse_iff.2 hnodup⟩

end Read

theorem get_ofFields_reverse (es : Fields) (f : Field) :
    (ofFields es.reverse).get f = (es.lookup f).getD (default.get f) := by
  -- of two lines for a field the first would be set last
  rw [ofFields, List.foldl_reverse]
  induction es with
  | nil => rfl
  | cons e es ih =>
    rw [List.foldr_cons, get_set, ih, List.lookup_cons]
    by_cases hf : f = e.1
    · simp [hf]
    · rw [if_neg hf, beq_false_of_ne hf]

/-- **Lines make settings exactly when each names a field and no two name the same one.** A field that is
named then has the value of its line, and any other its default, in whatever order the lines stand. -/
theorem ofText_lines (isEnded : Bool) (lines : List Line) :
    ((∃ s, ofText (String.ofList (linesText isEnded lines)) = .ok s) ↔
      (∀ l ∈ lines, String.ofList l.key ∈
        ["root", "config_root", "workspace", "ssh_key_name", "route_table"]) ∧
      (lines.map Line.key).Nodup) ∧
    ∀ s, ofText (String.ofList (linesText isEnded lines)) = .ok s → ∀ f : Field,
      (∀ l ∈ lines, l.key = f.name.toList → s.get f = String.ofList l.value) ∧
      ((∀ l ∈ lines, l.key ≠ f.name.toList) → s.get f = default.get f) := by
  simp only [ofText_ok_iff, ← Field.exists_name_iff]
  constructor
  · constructor
    · rintro ⟨s, es, hes, hnodup, -⟩
      exact ⟨hes.exists_name, hes.nodup_iff.1 hnodup⟩
    · rintro ⟨hnames, hnodup⟩
      obtain ⟨es, hes⟩ := exists_says hnames
      exact ⟨_, es, hes, hes.nodup_iff.2 hnodup, rfl⟩
  · rintro s ⟨es, hes, hnodup, rfl⟩ f
    rw [get_ofFields_reverse]
    constructor
    · intro l hl hf
      rw [hes.lookup_eq_some (hes.nodup_iff.1 hnodup) hl hf, Option.getD_some]
    · intro hf
      rw [hes.lookup_eq_none hf, Option.getD_none]

example : ofText "workspace: \"a \\\"b\\\\\"\nroot: \"\"" =
    .ok { root := ⟨""⟩, workspace := ⟨"a \"b\\"⟩ } := by decide +kernel

end Settings

end BootEnv
