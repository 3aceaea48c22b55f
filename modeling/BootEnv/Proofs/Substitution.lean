import BootEnv.Proofs.Scan

/-!
# What a substitution writes

A table is applied to a text along the leftmost-longest cut for its tokens. Which cut that is
depends on the tokens alone; the values enter only when the pieces are written out.

* `Replaced`: what a cut is written as, piece by piece: an escaped token stays and costs the
  backslash before it, any other gives way to its value.
* `apply_of_leftmostLongest`: a table is applied along any leftmost-longest cut.
* `apply_token`, `apply_escaped`, `apply_of_forall_not`: what becomes of a token alone, of one behind
  a backslash, and of a text without tokens.
* `apply_along_unique_cut`: **there is exactly one leftmost-longest cut, and every table with the
  same tokens writes that cut and nothing else.**
-/

namespace BootEnv

open Cut

/-- The tokens of a table. -/
def Table.tokens (t : Table) : Set (List Char) := {k | String.ofList k ∈ t}

theorem Table.toList_mem_tokens {t : Table} {k : String} : k.toList ∈ t.tokens ↔ k ∈ t := by
  show String.ofList k.toList ∈ t ↔ k ∈ t
  rw [String.ofList_toList]

/-- **A cut written out with the values of a table.** A backslash at the end of a gap escapes the
token behind it; what stands before the gap cannot. -/
inductive Replaced (t : Table) (tail : List Char) :
    List (List Char × List Char) → List Char → Prop
  /-- The last gap is copied. -/
  | tail : Replaced t tail [] tail
  /-- An escaped token is copied in place of the backslash and itself. -/
  | escaped {gap k : List Char} {ps out} : Replaced t tail ps out →
      Replaced t tail ((gap ++ ['\\'], k) :: ps) (gap ++ k ++ out)
  /-- Any other token gives way to its value. -/
  | bare {gap k : List Char} {e : Entry} {ps out} : gap.getLast? ≠ some '\\' →
      t[String.ofList k]? = some e → Replaced t tail ps out →
      Replaced t tail ((gap, k) :: ps) (gap ++ e.value.toList ++ out)

variable {t : Table} {k text : List Char} {e : Entry}

namespace Substitution

theorem mem_rules {r : List Char × List Char} :
    r ∈ (ofTable t).rules ↔
      ∃ k e, t[k]? = some e ∧ k ≠ "" ∧ r = (k.toList, e.value.toList) := by
  unfold ofTable
  simp only [List.mem_map, List.mem_filter, Prod.exists]
  constructor
  · rintro ⟨k, e, ⟨hm, hk⟩, rfl⟩
    rw [Std.ExtTreeMap.mem_toList_iff_getElem?_eq_some] at hm
    exact ⟨k, e, hm, by simpa using hk, rfl⟩
  · rintro ⟨k, e, hm, hk, rfl⟩
    exact ⟨k, e, ⟨Std.ExtTreeMap.mem_toList_iff_getElem?_eq_some.2 hm, by simpa using hk⟩, rfl⟩

theorem mem_tokens_ofTable (hk : k ≠ []) : k ∈ (ofTable t).tokens ↔ k ∈ t.tokens := by
  unfold tokens Table.tokens
  simp only [List.mem_map, mem_rules, Set.mem_ofPred_eq]
  constructor
  · rintro ⟨-, ⟨l, e, he, -, rfl⟩, rfl⟩
    rw [String.ofList_toList]
    exact (Std.ExtTreeMap.getElem?_eq_some_iff.1 he).1
  · intro hm
    have he := Std.ExtTreeMap.getElem?_eq_some_getElem hm
    refine ⟨_, ⟨String.ofList k, _, he, ?_, rfl⟩, String.toList_ofList⟩
    intro h0
    exact hk (by simpa using congrArg String.toList h0)

/-- The value of a token is that of its entry. -/
theorem value_ofTable (hk : k ≠ []) (he : t[String.ofList k]? = some e) :
    (ofTable t).value k = e.value.toList := by
  have hmem : k ∈ (ofTable t).tokens := by
    rw [mem_tokens_ofTable hk]
    exact (Std.ExtTreeMap.getElem?_eq_some_iff.1 he).1
  unfold value
  cases hl : (ofTable t).rules.lookup k with
  | none =>
    obtain ⟨r, hr, rfl⟩ := List.mem_map.1 hmem
    exact absurd (List.lookup_eq_none_iff.1 hl r hr) (by simp)
  | some v =>
    obtain ⟨a, b, hab, -⟩ := List.lookup_eq_some_iff.1 hl
    obtain ⟨k', e', he', -, hr⟩ := mem_rules.1 (hab ▸ List.mem_append_right a (.head b))
    simp only [Prod.mk.injEq] at hr
    rw [hr.1, String.ofList_toList, he'] at he
    rw [Option.getD_some, hr.2, Option.some.inj he]

end Substitution

open Substitution

/-- The cut along which a table is applied. -/
theorem leftmostLongest_ofTable (t : Table) (text : List Char) :
    LeftmostLongest t.tokens text (ofText (ofTable t).tokens text) :=
  (leftmostLongest_ofText _ text).congr fun _ hk => mem_tokens_ofTable hk

/-- **A table is applied along any leftmost-longest cut.** -/
theorem apply_of_leftmostLongest {text : String} {s : Cut Char}
    (h : LeftmostLongest t.tokens text.toList s) :
    (ofTable t).apply text = String.ofList (s.replace escape (ofTable t).value) := by
  unfold Substitution.apply applyChars
  rw [(leftmostLongest_ofTable t text.toList).unique h]

/-- **A token alone gives way to its value.** -/
theorem apply_token {k : String} (hk : k ≠ "") (he : t[k]? = some e) :
    (ofTable t).apply k = e.value := by
  have hne : k.toList ≠ [] := by simpa using hk
  have hmem : k.toList ∈ t.tokens :=
    Table.toList_mem_tokens.2 (Std.ExtTreeMap.getElem?_eq_some_iff.1 he).1
  have hcut : LeftmostLongest t.tokens k.toList ⟨[([], k.toList)], []⟩ := by
    refine leftmostLongest_cons_iff.2 ⟨[], by simp, ⟨hmem, hne⟩, by simp, fun x hx hocc => ?_, ?_⟩
    · exact hocc.2.length_le
    · exact leftmostLongest_nil_iff.2 ⟨rfl, by simp⟩
  have hvalue : (ofTable t).value k.toList = e.value.toList :=
    value_ofTable hne (by rw [String.ofList_toList]; exact he)
  rw [apply_of_leftmostLongest hcut]
  simp [Cut.replace, hvalue]

/-- **A token behind a backslash stays**, when no token starts at the backslash. -/
theorem apply_escaped {k : String} (hk : k ≠ "") (hmem : k ∈ t)
    (hfree : ∀ x ∈ t.tokens, ¬ OccursAt x (escape :: k.toList) 0) :
    (ofTable t).apply ("\\" ++ k) = k := by
  have htext : ("\\" ++ k).toList = escape :: k.toList := by simp [escape]
  have hcut : LeftmostLongest t.tokens ("\\" ++ k).toList ⟨[([escape], k.toList)], []⟩ := by
    rw [htext]
    refine leftmostLongest_cons_iff.2
      ⟨[], by simp, ⟨Table.toList_mem_tokens.2 hmem, by simpa using hk⟩, ?_, ?_, ?_⟩
    · intro i hi x hx
      obtain rfl : i = 0 := by simpa using hi
      exact hfree x hx
    · intro x hx hocc
      exact hocc.2.length_le
    · exact leftmostLongest_nil_iff.2 ⟨rfl, by simp⟩
  rw [apply_of_leftmostLongest hcut]
  simp [Cut.replace]

/-- **A text without tokens stays.** -/
theorem apply_of_forall_not {text : String}
    (hfree : ∀ i < text.toList.length, ∀ x ∈ t.tokens, ¬ OccursAt x text.toList i) :
    (ofTable t).apply text = text := by
  have hcut : LeftmostLongest t.tokens text.toList ⟨[], text.toList⟩ :=
    leftmostLongest_nil_iff.2 ⟨rfl, hfree⟩
  rw [apply_of_leftmostLongest hcut]
  simp [Cut.replace]

/-- Writing a cut out is what the substitution does with it. -/
theorem replaced_iff {ps : List (List Char × List Char)} {tail out : List Char}
    (h : ∀ p ∈ ps, p.2 ∈ t.tokens ∧ p.2 ≠ []) :
    Replaced t tail ps out ↔ out = Cut.replace escape (ofTable t).value ⟨ps, tail⟩ := by
  induction ps generalizing out with
  | nil =>
    constructor
    · rintro ⟨⟩
      simp [Cut.replace]
    · rintro rfl
      exact .tail
  | cons p ps ih =>
    obtain ⟨gap, k⟩ := p
    obtain ⟨hmem, hne⟩ := h (gap, k) (by simp)
    have he := Std.ExtTreeMap.getElem?_eq_some_getElem hmem
    have ih := fun out => @ih out fun p hp => h p (List.mem_cons_of_mem _ hp)
    constructor
    · intro hr
      cases hr with
      | escaped hr =>
        rw [(ih _).1 hr]
        simp [Cut.replace, escape]
      | bare hgap he' hr =>
        rw [(ih _).1 hr, ← value_ofTable hne he']
        simp [Cut.replace, escape, hgap]
    · rintro rfl
      have hr := (ih _).2 rfl
      -- the end of the gap decides which rule applies
      by_cases hgap : gap.getLast? = some '\\'
      · obtain ⟨front, rfl⟩ := List.getLast?_eq_some_iff.1 hgap
        have hw : Replaced t tail ((front ++ ['\\'], k) :: ps) _ := .escaped hr
        simpa [Cut.replace, escape] using hw
      · have hw : Replaced t tail ((gap, k) :: ps) _ := .bare hgap he hr
        rw [← value_ofTable hne he] at hw
        simpa [Cut.replace, escape, hgap] using hw

/-- **Substitution writes the one leftmost-longest cut of the text.** The cut is fixed by the tokens:
every table that has the same ones is applied along it, whatever their values are. -/
theorem apply_along_unique_cut (t : Table) (text : String) :
    ∃ s : Cut Char, (LeftmostLongest t.tokens text.toList s ∧
        ∀ s', LeftmostLongest t.tokens text.toList s' → s' = s) ∧
      ∀ t' : Table, t'.tokens = t.tokens →
        ∀ out, Replaced t' s.tail s.pieces out ↔ out = ((ofTable t').apply text).toList := by
  have hcut := leftmostLongest_ofTable t text.toList
  refine ⟨ofText (ofTable t).tokens text.toList, ⟨hcut, fun s' hs' => hs'.unique hcut⟩, ?_⟩
  intro t' ht out
  rw [← ht] at hcut
  rw [replaced_iff hcut.token_mem, apply_of_leftmostLongest hcut, String.toList_ofList]

end BootEnv
