import BootEnv.Token.Substitution
import Mathlib.Data.Set.Basic

/-!
# Leftmost-longest cuts

A text is cut at the tokens of a set so that no token is passed over and none is cut short: inside a
gap no token starts, and where a token is taken no longer one stands. Only the set of tokens enters.

* `Cut.LeftmostLongest`: the property, said by positions in the text.
* `leftmostLongest_nil_iff`, `leftmostLongest_cons_iff`: what it says of the first piece, and that
  the rest of the cut has it again.
* `LeftmostLongest.unique`: **a text has at most one such cut**.
* `LeftmostLongest.congr_of_occursAt`: **only the tokens that occur in a text matter to it**.
* `leftmostLongest_ofText`: **the scan finds it**.
-/

namespace BootEnv

variable {α : Type}

/-- The token `k` is not empty and occurs in the text at position `i`. -/
def OccursAt (k text : List α) (i : Nat) : Prop := k ≠ [] ∧ k <+: text.drop i

/-- What stands in front of a text does not matter behind it. -/
theorem occursAt_append (k a b : List α) (i : Nat) :
    OccursAt k (a ++ b) (a.length + i) ↔ OccursAt k b i := by
  unfold OccursAt
  rw [List.drop_length_add_append]

theorem OccursAt.lt_length {k text : List α} {i : Nat} (h : OccursAt k text i) :
    i < text.length := by
  by_contra hi
  have hd : text.drop i = [] := List.drop_eq_nil_of_le (by omega)
  have hp := h.2
  rw [hd, List.prefix_nil] at hp
  exact h.1 hp

/-- Of two tokens at one position the shorter starts the longer. -/
theorem OccursAt.eq_of_length {k l text : List α} {i : Nat} (hk : OccursAt k text i)
    (hl : OccursAt l text i) (h : k.length = l.length) : k = l :=
  (List.prefix_of_prefix_length_le hk.2 hl.2 h.le).eq_of_length h

/-- A prefix without the sign `c` ends before the first place where `c` stands. -/
theorem prefix_of_prefix_sign {c : α} {x a b : List α} (hc : c ∉ x) (h : x <+: a ++ c :: b) :
    x <+: a := by
  have ha : a ++ [c] <+: a ++ c :: b := ⟨b, by simp⟩
  rcases Nat.lt_or_ge a.length x.length with hlt | hle
  · -- a longer one would hold the sign
    have hsign : a ++ [c] <+: x := by
      refine List.prefix_of_prefix_length_le ha h ?_
      rw [List.length_append, List.length_singleton]
      omega
    exact absurd (hsign.mem (by simp)) hc
  · exact List.prefix_of_prefix_length_le h (List.prefix_append a _) hle

/-- A token without the sign that starts no later than the sign stands, ends before it. -/
theorem OccursAt.of_sign {c : α} {x a b : List α} {i : Nat} (hc : c ∉ x)
    (h : OccursAt x (a ++ c :: b) i) (hi : i ≤ a.length) : OccursAt x a i := by
  refine ⟨h.1, ?_⟩
  have hp := h.2
  rw [List.drop_append_of_le_length hi] at hp
  exact prefix_of_prefix_sign hc hp

/-- What follows a text leaves the tokens in it where they are. -/
theorem OccursAt.append {x a : List α} {i : Nat} (h : OccursAt x a i) (b : List α) :
    OccursAt x (a ++ b) i := by
  refine ⟨h.1, ?_⟩
  rw [List.drop_append_of_le_length h.lt_length.le]
  exact h.2.trans (List.prefix_append _ b)

/-- A token that ends before the second of two texts starts, occurs in the first. -/
theorem OccursAt.of_append {x a b : List α} {i : Nat} (h : OccursAt x (a ++ b) i)
    (hle : i + x.length ≤ a.length) : OccursAt x a i := by
  refine ⟨h.1, ?_⟩
  have hp := h.2
  rw [List.drop_append_of_le_length (by omega)] at hp
  refine List.prefix_of_prefix_length_le hp (List.prefix_append _ b) ?_
  rw [List.length_drop]
  omega

theorem OccursAt.isInfix {k text : List α} {i : Nat} (h : OccursAt k text i) : k <:+: text :=
  h.2.isInfix.trans (List.drop_suffix i text).isInfix

namespace Cut

/-- The number of elements in a list of pieces. -/
def span (ps : List (List α × List α)) : Nat := (ps.flatMap fun p => p.1 ++ p.2).length

/-- **The leftmost-longest cuts** of a text for a set of tokens. -/
structure LeftmostLongest (tokens : Set (List α)) (text : List α) (s : Cut α) : Prop where
  /-- Gaps and tokens together are the text. -/
  flatten_eq : s.flatten = text
  /-- What stands between two gaps is a token. -/
  token_mem : ∀ p ∈ s.pieces, p.2 ∈ tokens ∧ p.2 ≠ []
  /-- No token starts inside a gap in front of a token. -/
  gap_free : ∀ a gap k b, s.pieces = a ++ (gap, k) :: b →
    ∀ i < gap.length, ∀ x ∈ tokens, ¬ OccursAt x text (span a + i)
  /-- No token starts inside the last gap. -/
  tail_free : ∀ i < s.tail.length, ∀ x ∈ tokens, ¬ OccursAt x text (span s.pieces + i)
  /-- No longer token stands where one is taken. -/
  longest : ∀ a gap k b, s.pieces = a ++ (gap, k) :: b →
    ∀ x ∈ tokens, OccursAt x text (span a + gap.length) → x.length ≤ k.length

variable {tokens tokens' : Set (List α)} {text gap k tail rest : List α} {s s' : Cut α}
  {ps : List (List α × List α)}

theorem span_cons (gap k : List α) (ps : List (List α × List α)) :
    span ((gap, k) :: ps) = (gap ++ k).length + span ps := by
  unfold span
  rw [List.flatMap_cons, List.length_append]

/-- Behind its first piece a text has the positions of the rest. -/
theorem occursAt_span_cons (x gap k rest : List α) (a : List (List α × List α)) (i : Nat) :
    OccursAt x ((gap ++ k) ++ rest) (span ((gap, k) :: a) + i) ↔ OccursAt x rest (span a + i) := by
  rw [span_cons, Nat.add_assoc, occursAt_append]

/-- A cut without pieces: no token occurs in the text. -/
theorem leftmostLongest_nil_iff :
    LeftmostLongest tokens text ⟨[], tail⟩ ↔
      tail = text ∧ ∀ i < text.length, ∀ x ∈ tokens, ¬ OccursAt x text i := by
  constructor
  · intro h
    have ht : tail = text := h.flatten_eq
    refine ⟨ht, fun i hi x hx => ?_⟩
    have hf := h.tail_free i (by rw [ht]; exact hi) x hx
    simpa [span] using hf
  · rintro ⟨rfl, h⟩
    refine ⟨rfl, by simp, by simp, fun i hi x hx => ?_, by simp⟩
    have hf := h i hi x hx
    simpa [span] using hf

/-- **The first piece of a cut**, and the cut of the rest. -/
theorem leftmostLongest_cons_iff :
    LeftmostLongest tokens text ⟨(gap, k) :: ps, tail⟩ ↔
      ∃ rest, text = (gap ++ k) ++ rest ∧ (k ∈ tokens ∧ k ≠ []) ∧
        (∀ i < gap.length, ∀ x ∈ tokens, ¬ OccursAt x text i) ∧
        (∀ x ∈ tokens, OccursAt x text gap.length → x.length ≤ k.length) ∧
        LeftmostLongest tokens rest ⟨ps, tail⟩ := by
  constructor
  · intro h
    have ht : text = (gap ++ k) ++ flatten ⟨ps, tail⟩ := by
      rw [← h.flatten_eq]; simp [flatten]
    have hfirst := h.gap_free [] gap k ps rfl
    have hlong := h.longest [] gap k ps rfl
    simp only [span, List.flatMap_nil, List.length_nil, Nat.zero_add] at hfirst hlong
    refine ⟨flatten ⟨ps, tail⟩, ht, h.token_mem (gap, k) (by simp), hfirst, hlong, rfl,
      fun p hp => h.token_mem p (List.mem_cons_of_mem _ hp), ?_, ?_, ?_⟩
    · intro a g l b hps i hi x hx hocc
      rw [← occursAt_span_cons x gap k, ← ht] at hocc
      exact h.gap_free ((gap, k) :: a) g l b (by simp only at hps; simp [hps]) i hi x hx hocc
    · intro i hi x hx hocc
      rw [← occursAt_span_cons x gap k, ← ht] at hocc
      exact h.tail_free i hi x hx hocc
    · intro a g l b hps x hx hocc
      rw [← occursAt_span_cons x gap k, ← ht] at hocc
      exact h.longest ((gap, k) :: a) g l b (by simp only at hps; simp [hps]) x hx hocc
  -- a piece is either the first one or lies in the rest, where all positions count from its start
  · rintro ⟨rest, rfl, hk, hfirst, hlong, h⟩
    refine ⟨?_, ?_, ?_, ?_, ?_⟩
    · rw [← h.flatten_eq]; simp [flatten]
    · intro p hp
      rcases List.mem_cons.1 hp with rfl | hp
      · exact hk
      · exact h.token_mem p hp
    · intro a g l b hps i hi x hx hocc
      cases a with
      | nil =>
        simp only [List.nil_append, List.cons.injEq, Prod.mk.injEq] at hps
        obtain ⟨⟨rfl, rfl⟩, -⟩ := hps
        exact hfirst i hi x hx (by simpa [span] using hocc)
      | cons q a =>
        simp only [List.cons_append, List.cons.injEq] at hps
        obtain ⟨rfl, hps⟩ := hps
        rw [occursAt_span_cons] at hocc
        exact h.gap_free a g l b hps i hi x hx hocc
    · intro i hi x hx hocc
      rw [occursAt_span_cons] at hocc
      exact h.tail_free i hi x hx hocc
    · intro a g l b hps x hx hocc
      cases a with
      | nil =>
        simp only [List.nil_append, List.cons.injEq, Prod.mk.injEq] at hps
        obtain ⟨⟨rfl, rfl⟩, -⟩ := hps
        exact hlong x hx (by simpa [span] using hocc)
      | cons q a =>
        simp only [List.cons_append, List.cons.injEq] at hps
        obtain ⟨rfl, hps⟩ := hps
        rw [occursAt_span_cons] at hocc
        exact h.longest a g l b hps x hx hocc

theorem LeftmostLongest.occursAt_first
    (h : LeftmostLongest tokens text ⟨(gap, k) :: ps, tail⟩) : OccursAt k text gap.length := by
  obtain ⟨rest, rfl, hk, -⟩ := leftmostLongest_cons_iff.1 h
  refine ⟨hk.2, rest, ?_⟩
  rw [List.append_assoc, List.drop_left]

/-- **A text has at most one leftmost-longest cut.** -/
theorem LeftmostLongest.unique (h : LeftmostLongest tokens text s)
    (h' : LeftmostLongest tokens text s') : s = s' := by
  obtain ⟨ps, tail⟩ := s
  obtain ⟨ps', tail'⟩ := s'
  induction ps generalizing text ps' with
  | nil =>
    obtain ⟨rfl, hfree⟩ := leftmostLongest_nil_iff.1 h
    cases ps' with
    | nil => rw [(leftmostLongest_nil_iff.1 h').1]
    | cons p' ps' =>
      have hocc := h'.occursAt_first
      exact absurd hocc (hfree _ hocc.lt_length _ (h'.token_mem p' (by simp)).1)
  | cons p ps ih =>
    obtain ⟨gap, k⟩ := p
    have hocc := h.occursAt_first
    obtain ⟨rest, ht, hk, hfree, hlong, hrest⟩ := leftmostLongest_cons_iff.1 h
    cases ps' with
    | nil =>
      obtain ⟨-, hfree'⟩ := leftmostLongest_nil_iff.1 h'
      exact absurd hocc (hfree' _ hocc.lt_length _ hk.1)
    | cons p' ps' =>
      obtain ⟨gap', k'⟩ := p'
      have hocc' := h'.occursAt_first
      obtain ⟨rest', ht', hk', hfree', hlong', hrest'⟩ := leftmostLongest_cons_iff.1 h'
      -- neither gap can reach over the other's token
      have hlen : gap.length = gap'.length := by
        have h1 : ¬ gap.length < gap'.length := fun hlt => hfree' _ hlt k hk.1 hocc
        have h2 : ¬ gap'.length < gap.length := fun hlt => hfree _ hlt k' hk'.1 hocc'
        omega
      rw [← hlen] at hocc' hlong'
      have hkk : k = k' :=
        hocc.eq_of_length hocc' (le_antisymm (hlong' k hk.1 hocc) (hlong k' hk'.1 hocc'))
      subst hkk
      rw [ht, List.append_assoc, List.append_assoc] at ht'
      obtain ⟨rfl, hr⟩ := List.append_inj ht' hlen
      obtain rfl := List.append_cancel_left hr
      have htails := ih hrest ps' hrest'
      simp only [Cut.mk.injEq] at htails ⊢
      rw [htails.1, htails.2]
      exact ⟨rfl, rfl⟩

/-- What a cut takes as a token occurs in the text. -/
theorem LeftmostLongest.occursAt_of_mem {p : List α × List α} (h : LeftmostLongest tokens text s)
    (hp : p ∈ s.pieces) : ∃ i, OccursAt p.2 text i := by
  obtain ⟨gap, k⟩ := p
  obtain ⟨a, b, hps⟩ := List.append_of_mem hp
  have htext : text = (a.flatMap fun p => p.1 ++ p.2) ++ gap ++ (k ++ flatten ⟨b, s.tail⟩) := by
    rw [← h.flatten_eq]
    unfold flatten
    rw [hps]
    simp
  refine ⟨((a.flatMap fun p => p.1 ++ p.2) ++ gap).length, (h.token_mem (gap, k) hp).2, ?_⟩
  rw [htext, List.drop_left]
  exact List.prefix_append k _

/-- **Only the tokens that occur in a text matter to its cut.** -/
theorem LeftmostLongest.congr_of_occursAt (h : LeftmostLongest tokens text s)
    (ht : ∀ k i, OccursAt k text i → (k ∈ tokens ↔ k ∈ tokens')) :
    LeftmostLongest tokens' text s where
  flatten_eq := h.flatten_eq
  token_mem p hp := by
    obtain ⟨i, hocc⟩ := h.occursAt_of_mem hp
    exact ⟨(ht p.2 i hocc).1 (h.token_mem p hp).1, hocc.1⟩
  gap_free a gap k b hps i hi x hx hocc := h.gap_free a gap k b hps i hi x ((ht x _ hocc).2 hx) hocc
  tail_free i hi x hx hocc := h.tail_free i hi x ((ht x _ hocc).2 hx) hocc
  longest a gap k b hps x hx hocc := h.longest a gap k b hps x ((ht x _ hocc).2 hx) hocc

/-- The empty token does not matter. -/
theorem LeftmostLongest.congr (h : LeftmostLongest tokens text s)
    (ht : ∀ k, k ≠ [] → (k ∈ tokens ↔ k ∈ tokens')) : LeftmostLongest tokens' text s :=
  h.congr_of_occursAt fun k _ hocc => ht k hocc.1

/-- One more element where no token starts. -/
theorem LeftmostLongest.cons {c : α} (h : LeftmostLongest tokens text s)
    (hfree : ∀ x ∈ tokens, ¬ OccursAt x (c :: text) 0) :
    LeftmostLongest tokens (c :: text) (cons c s) := by
  have hstep : ∀ {n}, (∀ i < n, ∀ x ∈ tokens, ¬ OccursAt x text i) →
      ∀ i < n + 1, ∀ x ∈ tokens, ¬ OccursAt x (c :: text) i := by
    intro n hn i hi x hx
    cases i with
    | zero => exact hfree x hx
    | succ i => exact hn i (by omega) x hx
  obtain ⟨ps, tail⟩ := s
  cases ps with
  | nil =>
    obtain ⟨rfl, h⟩ := leftmostLongest_nil_iff.1 h
    exact leftmostLongest_nil_iff.2 ⟨rfl, hstep h⟩
  | cons p ps =>
    obtain ⟨gap, k⟩ := p
    obtain ⟨rest, rfl, hk, hf, hlong, hrest⟩ := leftmostLongest_cons_iff.1 h
    exact leftmostLongest_cons_iff.2 ⟨rest, rfl, hk, hstep hf, hlong, hrest⟩

end Cut

variable [DecidableEq α]

theorem standsAt_iff_occursAt {k text : List α} : standsAt k text = true ↔ OccursAt k text 0 := by
  rw [standsAt_iff]
  unfold OccursAt
  refine and_congr_right fun _ => ?_
  exact ⟨fun ⟨r, hr⟩ => ⟨r, hr.symm⟩, fun ⟨r, hr⟩ => ⟨r, hr.symm⟩⟩

theorem longestAt?_eq_none {ks : List (List α)} {text : List α} (h : longestAt? ks text = none) :
    ∀ x ∈ ks, ¬ OccursAt x text 0 := by
  induction ks with
  | nil => simp
  | cons k ks ih =>
    simp only [longestAt?] at h
    split at h
    next hn =>
      split at h
      · exact absurd h (by simp)
      next hk =>
        intro x hx
        rcases List.mem_cons.1 hx with rfl | hx
        · rwa [← standsAt_iff_occursAt]
        · exact ih hn x hx
    next => split at h <;> exact absurd h (by simp)

/-- No token in front of a text is longer than the one taken there. -/
theorem length_le_of_longestAt? {ks : List (List α)} {text k : List α}
    (h : longestAt? ks text = some k) : ∀ x ∈ ks, OccursAt x text 0 → x.length ≤ k.length := by
  induction ks generalizing k with
  | nil => simp
  | cons y ks ih =>
    intro x hx hocc
    simp only [longestAt?] at h
    split at h
    next hn =>
      split at h
      next hy =>
        obtain rfl := Option.some.inj h
        rcases List.mem_cons.1 hx with rfl | hx
        · exact le_rfl
        · exact absurd hocc (longestAt?_eq_none hn x hx)
      · exact absurd h (by simp)
    next best hbest =>
      -- the best of the others stays unless the first token is longer
      have hle : x ∈ ks → x.length ≤ best.length := fun hx => ih hbest x hx hocc
      split at h
      next hy =>
        obtain rfl := Option.some.inj h
        simp only [Bool.and_eq_true, decide_eq_true_eq] at hy
        rcases List.mem_cons.1 hx with rfl | hx
        · exact le_rfl
        · have := hle hx
          omega
      next hy =>
        obtain rfl := Option.some.inj h
        simp only [Bool.and_eq_true, decide_eq_true_eq, not_and, Nat.not_lt] at hy
        rcases List.mem_cons.1 hx with rfl | hx
        · exact hy (standsAt_iff_occursAt.2 hocc)
        · exact hle hx

namespace Cut

/-- **The scan finds the leftmost-longest cut.** -/
theorem leftmostLongest_ofText (tokens : List (List α)) (text : List α) :
    LeftmostLongest {k | k ∈ tokens} text (ofText tokens text) := by
  fun_induction ofText tokens text with
  | case1 => exact leftmostLongest_nil_iff.2 ⟨rfl, by simp⟩
  | case2 c cs k hk rest ih =>
    obtain ⟨hmem, hstands⟩ := standsAt_of_longestAt? hk
    obtain ⟨hne, r, hr⟩ := standsAt_iff.1 hstands
    obtain ⟨x, k, rfl⟩ := List.exists_cons_of_ne_nil hne
    simp only [List.cons_append, List.cons.injEq] at hr
    obtain ⟨rfl, rfl⟩ := hr
    have hrest : rest = ofText tokens r := by simp [rest]
    simp only [List.length_cons, Nat.add_sub_cancel, List.drop_left] at ih
    rw [hrest]
    exact leftmostLongest_cons_iff.2
      ⟨r, rfl, ⟨hmem, hne⟩, by simp, length_le_of_longestAt? hk, ih⟩
  | case3 c cs hk ih => exact ih.cons (longestAt?_eq_none hk)

end Cut

end BootEnv
