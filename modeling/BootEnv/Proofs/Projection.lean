import BootEnv.Proofs.Rows
import Mathlib.Data.List.Nodup
import Mathlib.Data.String.Basic

/-!
# The variables of a table

A table is projected to variables: an entry whose value is not empty sets its variable. Any number of
tokens may share a variable; of their entries the one with the greatest token counts, and one without a
value never does. Where no two tokens share a variable, the projection loses nothing but the empty
values.

* `mem_variablesOf`: the variables are those of the entries with a value.
* `Table.Decides`, `getElem?_variablesOf_eq_some_iff`: **a variable has the value of the entry with the
  greatest token.**
* `variablesOf_congr`: entries without a value do not matter.
* `ofTable?_decided`: **the file of any table.**
* `Table.Apart`: no two tokens share a variable.
* `getElem?_variablesOf`: **then a variable has the value of its entry, unless that is empty.**
* `size_variablesOf`: **and there are as many variables as entries with a value.**
-/

namespace BootEnv

/-- No two tokens of the table share a variable. -/
def Table.Apart (t : Table) : Prop :=
  ∀ (k k' : String) (e e' : Entry), t[k]? = some e → t[k']? = some e' → e.name = e'.name → k = k'

/-- **The entry that decides about a variable**: of those for it that have a value, the one with the
greatest token, in the order of code points. -/
structure Table.Decides (t : Table) (name k : String) (e : Entry) : Prop where
  entry : t[k]? = some e
  name_eq : e.name = name
  value_ne : e.value ≠ ""
  greatest : ∀ (k' : String) (e' : Entry), t[k']? = some e' → e'.name = name → e'.value ≠ "" → k' ≤ k

/-- At most one entry decides. -/
theorem Table.Decides.unique {t : Table} {name k k' : String} {e e' : Entry}
    (h : t.Decides name k e) (h' : t.Decides name k' e') : e = e' := by
  have hk : k = k' := le_antisymm (h'.greatest k e h.entry h.name_eq h.value_ne)
    (h.greatest k' e' h'.entry h'.name_eq h'.value_ne)
  subst hk
  exact Option.some.inj (h.entry.symm.trans h'.entry)

namespace EnvFile

variable {t t' : Table} {k name v : String} {e : Entry}

/-- The entries that set a variable. -/
def filled (t : Table) : List (String × Entry) := t.toList.filter fun r => r.2.value ≠ ""

theorem mem_filled : (k, e) ∈ filled t ↔ t[k]? = some e ∧ e.value ≠ "" := by
  unfold filled
  rw [List.mem_filter, Std.ExtTreeMap.mem_toList_iff_getElem?_eq_some, decide_eq_true_eq]

theorem pairwise_filled (t : Table) : (filled t).Pairwise fun a b => a.1 < b.1 := by
  have hsorted : t.toList.Pairwise fun a b => a.1 < b.1 :=
    Std.ExtTreeMap.ordered_keys_toList.imp fun hlt => compare_lt_iff_lt.1 hlt
  exact hsorted.sublist List.filter_sublist

theorem variablesOf_eq_fill (t : Table) :
    variablesOf t = fill ((filled t).map fun r => (r.2.name, r.2.value)) := by
  unfold variablesOf fill filled
  rw [List.filter_map, List.foldl_map, List.foldl_map]
  rfl

/-- The variables of a table are those of the entries with a value. -/
theorem mem_variablesOf :
    name ∈ variablesOf t ↔
      ∃ (k : String) (e : Entry), t[k]? = some e ∧ e.value ≠ "" ∧ e.name = name := by
  rw [variablesOf_eq_fill, mem_fill]
  constructor
  · rintro ⟨r, hr, rfl⟩
    obtain ⟨⟨k, e⟩, hm, rfl⟩ := List.mem_map.1 hr
    exact ⟨k, e, (mem_filled.1 hm).1, (mem_filled.1 hm).2, rfl⟩
  · rintro ⟨k, e, he, hv, rfl⟩
    exact ⟨_, List.mem_map.2 ⟨(k, e), mem_filled.2 ⟨he, hv⟩, rfl⟩, rfl⟩

/-- A file is made unless all values are empty. -/
theorem ofTable?_eq_none_iff :
    ofTable? t = none ↔ ∀ (k : String) (e : Entry), t[k]? = some e → e.value = "" := by
  have hempty : (variablesOf t).isEmpty = true ↔ ∀ name, name ∉ variablesOf t := by
    rw [Std.ExtTreeMap.isEmpty_iff, Std.ExtTreeMap.eq_empty_iff_forall_not_mem]
  unfold ofTable?
  rw [ite_eq_left_iff]
  simp only [reduceCtorEq, imp_false, not_not]
  rw [hempty]
  constructor
  · intro h k e he
    by_contra hv
    exact h e.name (mem_variablesOf.2 ⟨k, e, he, hv, rfl⟩)
  · intro h name hn
    obtain ⟨k, e, he, hv, -⟩ := mem_variablesOf.1 hn
    exact hv (h k e he)

theorem vars_of_ofTable? {f : EnvFile} (h : ofTable? t = some f) : f.vars = variablesOf t := by
  unfold ofTable? at h
  split at h
  · exact absurd h (by simp)
  · rw [← Option.some.inj h]

/-- The variables come from the last entry for each, so from the one with the greatest token. -/
theorem exists_decides (h : (variablesOf t)[name]? = some v) :
    ∃ k e, t.Decides name k e ∧ e.value = v := by
  rw [variablesOf_eq_fill, getElem?_fill_eq_some_iff] at h
  obtain ⟨a, b, hrows, hb⟩ := h
  obtain ⟨front, back, hfilled, -, hback⟩ := List.map_eq_append_iff.1 hrows
  obtain ⟨⟨k, e⟩, back, rfl, hr, rfl⟩ := List.map_eq_cons_iff.1 hback
  obtain ⟨rfl, rfl⟩ := Prod.mk.inj hr
  have hmem : (k, e) ∈ filled t := by
    rw [hfilled]
    exact List.mem_append_right front (.head back)
  refine ⟨k, e, ⟨(mem_filled.1 hmem).1, rfl, (mem_filled.1 hmem).2, fun k' e' he' hn hv => ?_⟩, rfl⟩
  have hmem' : (k', e') ∈ filled t := mem_filled.2 ⟨he', hv⟩
  have hsorted := pairwise_filled t
  rw [hfilled] at hmem' hsorted
  rcases List.mem_append.1 hmem' with hfront | hlater
  · exact le_of_lt ((List.pairwise_append.1 hsorted).2.2 _ hfront _ List.mem_cons_self)
  · rcases List.mem_cons.1 hlater with heq | hlater
    · exact le_of_eq (congrArg Prod.fst heq)
    · exact absurd hn (hb _ (List.mem_map_of_mem hlater))

/-- **A variable has the value of the entry with the greatest token.** -/
theorem getElem?_variablesOf_eq_some_iff :
    (variablesOf t)[name]? = some v ↔ ∃ k e, t.Decides name k e ∧ e.value = v := by
  refine ⟨exists_decides, ?_⟩
  rintro ⟨k, e, he, rfl⟩
  have hmem : name ∈ variablesOf t := mem_variablesOf.2 ⟨k, e, he.entry, he.value_ne, he.name_eq⟩
  have hget := Std.ExtTreeMap.getElem?_eq_some_getElem hmem
  obtain ⟨k', e', he', hv⟩ := exists_decides hget
  rw [hget, ← hv, he'.unique he]

theorem decides_congr (h : ∀ (k : String) (e : Entry), e.value ≠ "" → (t[k]? = some e ↔ t'[k]? = some e))
    (he : t.Decides name k e) : t'.Decides name k e where
  entry := (h k e he.value_ne).1 he.entry
  name_eq := he.name_eq
  value_ne := he.value_ne
  greatest k' e' he' hn hv := he.greatest k' e' ((h k' e' hv).2 he') hn hv

/-- **Entries without a value do not matter.** -/
theorem variablesOf_congr
    (h : ∀ (k : String) (e : Entry), e.value ≠ "" → (t[k]? = some e ↔ t'[k]? = some e)) :
    variablesOf t = variablesOf t' := by
  refine Std.ExtTreeMap.ext_getElem? fun name => Option.ext fun v => ?_
  rw [getElem?_variablesOf_eq_some_iff, getElem?_variablesOf_eq_some_iff]
  constructor
  · rintro ⟨k, e, he, hv⟩
    exact ⟨k, e, decides_congr h he, hv⟩
  · rintro ⟨k, e, he, hv⟩
    exact ⟨k, e, decides_congr (fun k e hv => (h k e hv).symm) he, hv⟩

/-- **A variable has the value of its entry**, unless that is empty. -/
theorem getElem?_variablesOf (ht : t.Apart) (he : t[k]? = some e) :
    (variablesOf t)[e.name]? = if e.value = "" then none else some e.value := by
  have honly : ∀ (k' : String) (e' : Entry), t[k']? = some e' → e'.name = e.name → k' = k ∧ e' = e := by
    intro k' e' he' hn
    obtain rfl := ht k' k e' e he' he hn
    exact ⟨rfl, Option.some.inj (he'.symm.trans he)⟩
  split
  next hv =>
    rw [Option.eq_none_iff_forall_ne_some]
    intro v hget
    obtain ⟨k', e', he', -⟩ := getElem?_variablesOf_eq_some_iff.1 hget
    obtain ⟨-, rfl⟩ := honly k' e' he'.entry he'.name_eq
    exact he'.value_ne hv
  next hv =>
    exact getElem?_variablesOf_eq_some_iff.2 ⟨k, e,
      ⟨he, rfl, hv, fun k' e' he' hn _ => le_of_eq (honly k' e' he' hn).1⟩, rfl⟩

/-- **There are as many variables as entries with a value.** -/
theorem size_variablesOf (ht : t.Apart) : (variablesOf t).size = (filled t).length := by
  have hfilled : (filled t).Pairwise fun a b => a.1 ≠ b.1 := (pairwise_filled t).imp ne_of_lt
  rw [variablesOf_eq_fill, size_fill, List.length_map]
  rw [List.map_map]
  refine (List.pairwise_map.2 (hfilled.imp_of_mem fun {a b} ha hb hne hn => hne ?_))
  exact ht a.1 b.1 a.2 b.2 (mem_filled.1 ha).1 (mem_filled.1 hb).1 hn

/-- **The file of any table.** There is one unless all values are empty; its variables are those of the
entries with a value; each has the value of the entry with the greatest token; and an entry without a
value makes no difference. -/
theorem ofTable?_decided (t : Table) :
    (ofTable? t = none ↔ ∀ (k : String) (e : Entry), t[k]? = some e → e.value = "") ∧
    (∀ f, ofTable? t = some f →
      (∀ name, name ∈ f.vars ↔
        ∃ (k : String) (e : Entry), t[k]? = some e ∧ e.value ≠ "" ∧ e.name = name) ∧
      ∀ name v, f.vars[name]? = some v ↔ ∃ k e, t.Decides name k e ∧ e.value = v) ∧
    ∀ (k : String) (e : Entry), t[k]? = some e → e.value = "" → ofTable? (t.erase k) = ofTable? t := by
  refine ⟨ofTable?_eq_none_iff, fun f hf => ?_, fun k e he hv => ?_⟩
  · rw [vars_of_ofTable? hf]
    exact ⟨fun name => mem_variablesOf, fun name v => getElem?_variablesOf_eq_some_iff⟩
  · have hsame : variablesOf (t.erase k) = variablesOf t := by
      refine variablesOf_congr fun k' e' hv' => ?_
      rw [Std.ExtTreeMap.getElem?_erase]
      split
      next hk =>
        obtain rfl : k = k' := Std.compare_eq_iff_eq.1 hk
        rw [he, Option.some.injEq]
        constructor
        · exact fun h => absurd h (by simp)
        · rintro rfl
          exact absurd hv hv'
      next => rfl
    unfold ofTable?
    rw [hsame]

/-- Three tokens share a variable, the last of them without a value. -/
def sharedTable : Table :=
  Table.ofRows [("$b", ⟨"X", "1"⟩), ("$a", ⟨"X", "2"⟩), ("$c", ⟨"X", ""⟩), ("$d", ⟨"Y", ""⟩)]

/-- Neither the order of rows nor an entry without a value decides about a shared variable. -/
theorem ofTable?_decided_shared :
    ∃ f, ofTable? sharedTable = some f ∧ f.vars["X"]? = some "1" ∧ "Y" ∉ f.vars ∧
      ofTable? (sharedTable.erase "$c") = ofTable? sharedTable := by
  have hrows : ∀ (k : String) (e : Entry), sharedTable[k]? = some e →
      k = "$b" ∧ e = ⟨"X", "1"⟩ ∨ k = "$a" ∧ e = ⟨"X", "2"⟩ ∨ e = ⟨"X", ""⟩ ∨ e = ⟨"Y", ""⟩ := by
    intro k e he
    have hrow := mem_of_getElem?_fill he
    simp only [List.mem_cons, Prod.mk.injEq, List.mem_nil_iff, or_false] at hrow
    rcases hrow with h | h | h | h
    · exact .inl h
    · exact .inr (.inl h)
    · exact .inr (.inr (.inl h.2))
    · exact .inr (.inr (.inr h.2))
  have hb : sharedTable["$b"]? = some ⟨"X", "1"⟩ := by decide +kernel
  have hc : sharedTable["$c"]? = some ⟨"X", ""⟩ := by decide +kernel
  obtain ⟨hnone, hsome, herase⟩ := ofTable?_decided sharedTable
  obtain ⟨f, hf⟩ : ∃ f, ofTable? sharedTable = some f := by
    rw [← Option.ne_none_iff_exists', ne_eq, hnone]
    exact fun h => absurd (h _ _ hb) (by decide)
  obtain ⟨hmem, hget⟩ := hsome f hf
  refine ⟨f, hf, (hget "X" "1").2 ⟨"$b", ⟨"X", "1"⟩, ⟨hb, rfl, by decide, ?_⟩, rfl⟩, ?_,
    herase "$c" _ hc rfl⟩
  · intro k e he hn hv
    rcases hrows k e he with ⟨rfl, -⟩ | ⟨rfl, -⟩ | rfl | rfl
    · exact le_rfl
    · decide
    · exact absurd rfl hv
    · exact absurd rfl hv
  · rw [hmem]
    rintro ⟨k, e, he, hv, hn⟩
    rcases hrows k e he with ⟨-, rfl⟩ | ⟨-, rfl⟩ | rfl | rfl
    · exact absurd hn (by decide)
    · exact absurd hn (by decide)
    · exact hv rfl
    · exact hv rfl

end EnvFile

end BootEnv
