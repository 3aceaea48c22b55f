import BootEnv.Proofs.Literal
import Mathlib.Data.List.Basic

/-!
# What matters to a substitution

A substitution reads a table only at the tokens that occur in its text. Other tokens take no part in
the cut: they cannot start, end or lengthen a piece of it. Nor does the order of the tokens, since two
that stand at one place and are equally long are the same.

* `ofText_congr`: the scan depends on the set of its tokens.
* `replace_congr`: a cut is written with the values of its tokens alone.
* `lookup_perm`: in another order of the rules every token has its value.
* `Table.SameOn`: two tables have the same values for the tokens that occur in a text.
* `apply_of_sameOn`: **such tables do the same with the text**, and the order of the tokens does not
  matter.
-/

namespace BootEnv

namespace Cut

variable {α : Type} [DecidableEq α]

/-- **The scan depends on the set of its tokens**, not on their order. -/
theorem ofText_congr {ks ks' : List (List α)} (h : ∀ k, k ≠ [] → (k ∈ ks ↔ k ∈ ks'))
    (text : List α) : ofText ks text = ofText ks' text :=
  ((leftmostLongest_ofText ks text).congr h).unique (leftmostLongest_ofText ks' text)

/-- A cut is written with the values of its tokens. -/
theorem replace_congr {c : α} {value value' : List α → List α} {s : Cut α}
    (h : ∀ p ∈ s.pieces, value p.2 = value' p.2) : s.replace c value = s.replace c value' := by
  have hpieces : ∀ p ∈ s.pieces,
      (if p.1.getLast? = some c then p.1.dropLast ++ p.2 else p.1 ++ value p.2) =
        if p.1.getLast? = some c then p.1.dropLast ++ p.2 else p.1 ++ value' p.2 := by
    intro p hp
    rw [h p hp]
  unfold replace
  rw [List.flatMap_congr hpieces]

end Cut

section Order

variable {β γ : Type} [BEq β] [LawfulBEq β] {l l' : List (β × γ)}

/-- Where no key has two values, a key has the value that it comes with. -/
theorem lookup_eq_some_iff_mem (hl : ∀ k v v', (k, v) ∈ l → (k, v') ∈ l → v = v') {k : β} {v : γ} :
    l.lookup k = some v ↔ (k, v) ∈ l := by
  constructor
  · intro h
    obtain ⟨a, b, rfl, -⟩ := List.lookup_eq_some_iff.1 h
    simp
  · intro h
    cases hk : l.lookup k with
    | none => exact absurd (List.lookup_eq_none_iff.1 hk (k, v) h) (by simp)
    | some w =>
      obtain ⟨a, b, hab, -⟩ := List.lookup_eq_some_iff.1 hk
      rw [hl k v w h (by rw [hab]; simp)]

/-- In another order every key has the value that it had. -/
theorem lookup_perm (h : l.Perm l') (hl : ∀ k v v', (k, v) ∈ l → (k, v') ∈ l → v = v') (k : β) :
    l'.lookup k = l.lookup k := by
  have hl' : ∀ k v v', (k, v) ∈ l' → (k, v') ∈ l' → v = v' := fun k v v' hv hv' =>
    hl k v v' (h.mem_iff.2 hv) (h.mem_iff.2 hv')
  refine Option.ext fun v => ?_
  rw [lookup_eq_some_iff_mem hl, lookup_eq_some_iff_mem hl', h.mem_iff]

end Order

open Cut Substitution

variable {t t' : Table}

/-- The rules of a table have one value for each token. -/
theorem Substitution.rules_functional (t : Table) (k v v' : List Char)
    (h : (k, v) ∈ (ofTable t).rules) (h' : (k, v') ∈ (ofTable t).rules) : v = v' := by
  obtain ⟨l, e, he, -, hr⟩ := mem_rules.1 h
  obtain ⟨l', e', he', -, hr'⟩ := mem_rules.1 h'
  simp only [Prod.mk.injEq] at hr hr'
  obtain rfl : l = l' := String.toList_inj.1 (hr.1.symm.trans hr'.1)
  rw [he] at he'
  rw [hr.2, hr'.2, Option.some.inj he']

/-- **The order of the rules does not matter.** -/
theorem Substitution.apply_perm {rules : List (List Char × List Char)}
    (h : rules.Perm (ofTable t).rules) (text : String) :
    (Substitution.mk rules).apply text = t.apply text := by
  have htokens : ∀ k, k ≠ [] → (k ∈ (Substitution.mk rules).tokens ↔ k ∈ (ofTable t).tokens) :=
    fun k _ => (h.map Prod.fst).mem_iff
  have hvalue : (Substitution.mk rules).value = (ofTable t).value := by
    funext k
    exact congrArg (Option.getD · []) (lookup_perm h.symm (rules_functional t) k)
  unfold Table.apply Substitution.apply applyChars
  rw [ofText_congr htokens, hvalue]

/-- The tables have the same tokens in the text, with the same values. -/
def Table.SameOn (t t' : Table) (text : String) : Prop :=
  ∀ k : String, k ≠ "" → k.toList <:+: text.toList →
    (t[k]?).map Entry.value = (t'[k]?).map Entry.value

theorem Table.SameOn.mem_iff {text : String} (h : t.SameOn t' text) {k : List Char} {i : ℕ}
    (hocc : OccursAt k text.toList i) : k ∈ t.tokens ↔ k ∈ t'.tokens := by
  have hk := h (String.ofList k) (by simpa using hocc.1) (by simpa using hocc.isInfix)
  show String.ofList k ∈ t ↔ String.ofList k ∈ t'
  rw [Std.ExtTreeMap.mem_iff_isSome_getElem?, Std.ExtTreeMap.mem_iff_isSome_getElem?,
    ← Option.isSome_map, hk, Option.isSome_map]

/-- A token that occurs in the text has one value in both tables. -/
theorem Table.SameOn.value_eq {text : String} (h : t.SameOn t' text) {k : List Char} {i : ℕ}
    (hocc : OccursAt k text.toList i) (hmem : k ∈ t.tokens) :
    (ofTable t).value k = (ofTable t').value k := by
  have he := Std.ExtTreeMap.getElem?_eq_some_getElem hmem
  have he' := Std.ExtTreeMap.getElem?_eq_some_getElem ((h.mem_iff hocc).1 hmem)
  have hk := h (String.ofList k) (by simpa using hocc.1) (by simpa using hocc.isInfix)
  rw [he, he', Option.map_some, Option.map_some, Option.some.injEq] at hk
  rw [value_ofTable hocc.1 he, value_ofTable hocc.1 he', hk]

/-- **Only the tokens that occur in a text matter, and not their order.** Two tables do the same with
a text if they have the same tokens in it, with the same values, whatever their variables, their other
tokens and their empty token are. The rules of a table do the same with every text in every order. -/
theorem apply_of_sameOn :
    (∀ (t t' : Table) (text : String), t.SameOn t' text → t.apply text = t'.apply text) ∧
    ∀ (t : Table) (rules : List (List Char × List Char)), rules.Perm (ofTable t).rules →
      ∀ text : String, (Substitution.mk rules).apply text = t.apply text := by
  refine ⟨fun t t' text h => ?_, fun t rules h => apply_perm h⟩
  have hcut := leftmostLongest_ofTable t text.toList
  have hcut' : LeftmostLongest t'.tokens text.toList (ofText (ofTable t).tokens text.toList) :=
    hcut.congr_of_occursAt fun k i hocc => h.mem_iff hocc
  have hvalue : ∀ p ∈ (ofText (ofTable t).tokens text.toList).pieces,
      (ofTable t).value p.2 = (ofTable t').value p.2 := by
    intro p hp
    obtain ⟨i, hocc⟩ := hcut.occursAt_of_mem hp
    exact h.value_eq hocc (hcut.token_mem p hp).1
  unfold Table.apply
  rw [apply_of_leftmostLongest hcut, apply_of_leftmostLongest hcut', replace_congr hvalue]

/-- A table with one token of `nestedTable`, under another variable, and two tokens more. -/
def renamedTable : Table :=
  Table.ofRows [("", ⟨"E", "0"⟩), ("$a", ⟨"X", "1"⟩), ("$b", ⟨"B", "3"⟩)]

/-- In a text with no other token the two tables do the same, and their rules in any order. -/
theorem apply_of_sameOn_renamed :
    nestedTable.SameOn renamedTable "$a\\$a_" ∧ nestedTable.apply "$a\\$a_" = "1$a_" ∧
      [("$a_1".toList, "2".toList), ("$a".toList, "1".toList)].Perm (ofTable nestedTable).rules ∧
      (Substitution.mk [("$a_1".toList, "2".toList), ("$a".toList, "1".toList)]).apply "$a$a_1" =
        "12" := by
  have hsame : nestedTable.SameOn renamedTable "$a\\$a_" := by
    intro k hk hin
    by_cases ha : k = "$a"
    · subst ha
      decide +kernel
    · -- no other token of either table occurs in the text
      have hnested : nestedTable[k]? = none := by
        refine getElem?_fill_eq_none fun r hr => ?_
        rintro rfl
        have hrows : ∀ r ∈ [("$a", (⟨"A", "1"⟩ : Entry)), ("$a_1", ⟨"A_1", "2"⟩)],
            r.1 = "$a" ∨ ¬ r.1.toList <:+: "$a\\$a_".toList := by
          decide +kernel
        exact (hrows r hr).elim ha fun hnot => hnot hin
      have hrenamed : renamedTable[k]? = none := by
        refine getElem?_fill_eq_none fun r hr => ?_
        rintro rfl
        have hrows : ∀ r ∈ [("", (⟨"E", "0"⟩ : Entry)), ("$a", ⟨"X", "1"⟩), ("$b", ⟨"B", "3"⟩)],
            r.1 = "" ∨ r.1 = "$a" ∨ ¬ r.1.toList <:+: "$a\\$a_".toList := by
          decide +kernel
        exact (hrows r hr).elim hk fun h => h.elim ha fun hnot => hnot hin
      rw [hnested, hrenamed]
  have hperm : [("$a_1".toList, "2".toList), ("$a".toList, "1".toList)].Perm
      (ofTable nestedTable).rules := by
    decide +kernel
  refine ⟨hsame, ?_, hperm, ?_⟩
  · rw [apply_of_sameOn.1 nestedTable renamedTable _ hsame]
    decide +kernel
  · rw [apply_of_sameOn.2 nestedTable _ hperm]
    decide +kernel

end BootEnv
