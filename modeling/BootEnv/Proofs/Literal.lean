import BootEnv.Proofs.Rows
import BootEnv.Proofs.Substitution

/-!
# Texts that substitution writes as they are

A text comes out of a substitution unchanged when a backslash is put in front of each token that the
scan finds in it. The new signs move the text apart, and it has to be shown that the scan takes the
same tokens again: a token without a backslash cannot reach over one, so what stands between two of
the new signs is scanned as before.

* `Cut.guard`: the cut with a sign more at the end of each gap in front of a token.
* `LeftmostLongest.guard`: **the guarded cut is the leftmost-longest cut of the guarded text.**
* `replace_guard`: written out, it is the text that was guarded.
* `apply_literal`: **so every text can be written.**
-/

namespace BootEnv

variable {α : Type}

namespace Cut

variable {tokens : Set (List α)} {text : List α} {s : Cut α} {c : α}

/-- The cut with the sign `c` at the end of each gap in front of a token. -/
def guard (c : α) (s : Cut α) : Cut α := ⟨s.pieces.map fun p => (p.1 ++ [c], p.2), s.tail⟩

theorem flatten_guard_cons (c : α) (gap k : List α) (ps : List (List α × List α))
    (tail : List α) : (guard c ⟨(gap, k) :: ps, tail⟩).flatten =
      gap ++ c :: (k ++ (guard c ⟨ps, tail⟩).flatten) := by
  simp [guard, flatten]

/-- Up to its first new sign a guarded text is as it was. -/
theorem prefix_flatten_guard {x : List α} (hc : c ∉ x) (a : List α)
    (h : x <+: a ++ (s.guard c).flatten) : x <+: a ++ s.flatten := by
  obtain ⟨ps, tail⟩ := s
  cases ps with
  | nil => exact h
  | cons p ps =>
    obtain ⟨gap, k⟩ := p
    rw [flatten_guard_cons, ← List.append_assoc] at h
    have hgap : x <+: a ++ gap := prefix_of_prefix_sign hc h
    refine hgap.trans ⟨k ++ flatten ⟨ps, tail⟩, ?_⟩
    simp [flatten]

/-- **The guarded cut is the leftmost-longest cut of the guarded text**, when no token holds the
sign. -/
theorem LeftmostLongest.guard (h : LeftmostLongest tokens text s) (hc : ∀ x ∈ tokens, c ∉ x) :
    LeftmostLongest tokens (s.guard c).flatten (s.guard c) := by
  obtain ⟨ps, tail⟩ := s
  -- piece by piece: the rest of a guarded cut is the guarded rest
  induction ps generalizing text with
  | nil =>
    obtain ⟨rfl, hfree⟩ := leftmostLongest_nil_iff.1 h
    have htail : (Cut.guard c ⟨[], tail⟩).flatten = tail := by simp [Cut.guard, flatten]
    rw [htail]
    exact leftmostLongest_nil_iff.2 ⟨rfl, hfree⟩
  | cons p ps ih =>
    obtain ⟨gap, k⟩ := p
    obtain ⟨rest, rfl, hk, hfree, hlong, hrest⟩ := leftmostLongest_cons_iff.1 h
    have htext : (Cut.guard c ⟨(gap, k) :: ps, tail⟩).flatten =
        ((gap ++ [c]) ++ k) ++ (Cut.guard c ⟨ps, tail⟩).flatten := by
      rw [flatten_guard_cons]
      simp
    rw [htext]
    refine leftmostLongest_cons_iff.2 ⟨_, rfl, hk, ?_, ?_, ih hrest⟩
    · -- a token in the longer gap lies before the sign, so it was in the gap already
      intro i hi x hx hocc
      have hle : i ≤ gap.length := by
        rw [List.length_append, List.length_singleton] at hi
        exact Nat.le_of_lt_succ hi
      rw [← htext, flatten_guard_cons] at hocc
      have hgap : OccursAt x gap i := hocc.of_sign (hc x hx) hle
      refine hfree i hgap.lt_length x hx ?_
      rw [List.append_assoc]
      exact hgap.append _
    · -- a token at the place of `k` lies before the next sign, so it stood there already
      intro x hx hocc
      have hhere : OccursAt x (k ++ (Cut.guard c ⟨ps, tail⟩).flatten) 0 := by
        rw [← occursAt_append x (gap ++ [c]), Nat.add_zero, ← List.append_assoc]
        exact hocc
      have hbefore : OccursAt x (k ++ rest) 0 := by
        refine ⟨hhere.1, ?_⟩
        rw [← hrest.flatten_eq]
        exact prefix_flatten_guard (hc x hx) k hhere.2
      refine hlong x hx ?_
      rw [List.append_assoc, ← Nat.add_zero gap.length, occursAt_append]
      exact hbefore

/-- Written out, a guarded cut is the text that was cut: each token is escaped by its sign. -/
theorem replace_guard [DecidableEq α] (c : α) (value : List α → List α) (s : Cut α) :
    (s.guard c).replace c value = s.flatten := by
  obtain ⟨ps, tail⟩ := s
  induction ps with
  | nil => rfl
  | cons p ps ih =>
    obtain ⟨gap, k⟩ := p
    simp only [replace, guard, flatten, List.map_cons, List.flatMap_cons, List.getLast?_concat,
      List.dropLast_concat, if_true, List.append_assoc] at ih ⊢
    rw [ih]

end Cut

open Cut Substitution

/-- The text with a backslash in front of each token that the scan finds. -/
def Table.literal (t : Table) (text : String) : String :=
  String.ofList ((ofText (ofTable t).tokens text.toList).guard escape).flatten

/-- **Every text can be written.** Where no token of a table holds a backslash, a text with a
backslash put in front of each token that the leftmost-longest scan finds is applied to the text
itself, whatever backslashes it had before. -/
theorem apply_literal (t : Table) (ht : ∀ k ∈ t, escape ∉ k.toList) (text : String) :
    LeftmostLongest t.tokens text.toList (ofText (ofTable t).tokens text.toList) ∧
      t.apply (t.literal text) = text := by
  have hcut := leftmostLongest_ofTable t text.toList
  have hsign : ∀ x ∈ t.tokens, escape ∉ x := by
    intro x hx
    have hmem := ht (String.ofList x) hx
    rwa [String.toList_ofList] at hmem
  refine ⟨hcut, ?_⟩
  have hguard : LeftmostLongest t.tokens (t.literal text).toList
      ((ofText (ofTable t).tokens text.toList).guard escape) := by
    unfold Table.literal
    rw [String.toList_ofList]
    exact hcut.guard hsign
  unfold Table.apply
  rw [apply_of_leftmostLongest hguard, replace_guard, flatten_ofText, String.ofList_toList]

/-- Two tokens, one the front of the other. -/
def nestedTable : Table := Table.ofRows [("$a", ⟨"A", "1"⟩), ("$a_1", ⟨"A_1", "2"⟩)]

/-- A text with an escaped token, adjacent tokens and backslashes comes out as it is. -/
theorem apply_literal_nested :
    (∀ k ∈ nestedTable, escape ∉ k.toList) ∧
      nestedTable.literal "\\$a_1$a\\\\$a$" = "\\\\$a_1\\$a\\\\\\$a$" ∧
      nestedTable.apply "\\\\$a_1\\$a\\\\\\$a$" = "\\$a_1$a\\\\$a$" := by
  have ht : ∀ k ∈ nestedTable, escape ∉ k.toList := by
    intro k hk
    obtain ⟨r, hr, rfl⟩ := mem_fill.1 hk
    revert r
    decide
  have hliteral : nestedTable.literal "\\$a_1$a\\\\$a$" = "\\\\$a_1\\$a\\\\\\$a$" := by
    decide +kernel
  refine ⟨ht, hliteral, ?_⟩
  rw [← hliteral]
  exact (apply_literal nestedTable ht "\\$a_1$a\\\\$a$").2

end BootEnv
