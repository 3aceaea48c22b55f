import BootEnv.Proofs.Literal
import BootEnv.Text.Segment
import Mathlib.Data.List.Basic

/-!
# Substitution in the parts of a text

A text may be substituted part by part when nothing that the scan sees lies across the joint: no
token starts in one part and ends in the next, and no backslash that ends one part stands in front of
a token that starts the next. Then the last gap of the first part and the first gap of the second are
one gap of the whole, and that is all that happens at the joint.

* `Cut.append`: two cuts one behind the other.
* `LeftmostLongest.append`: **they are the leftmost-longest cut of both texts together.**
* `replace_append`: **and are written one behind the other.**
* `apply_append`: so substitution goes into the parts.
* `apply_of_parts`: **it does where nothing lies across the joint, hence line by line** when no token
  holds a newline.
-/

namespace BootEnv

variable {α : Type}

/-- A token starts in the first text and ends in the second. -/
def Straddled (tokens : Set (List α)) (a b : List α) : Prop :=
  ∃ k ∈ tokens, ∃ i < a.length, OccursAt k (a ++ b) i ∧ a.length < i + k.length

namespace Cut

variable {tokens : Set (List α)} {a b : List α} {s s' : Cut α}

/-- Two cuts one behind the other: the gap at the end of the first goes on into the second. -/
def append (s s' : Cut α) : Cut α :=
  match s'.pieces with
  | [] => ⟨s.pieces, s.tail ++ s'.tail⟩
  | (gap, k) :: ps => ⟨s.pieces ++ (s.tail ++ gap, k) :: ps, s'.tail⟩

theorem append_cons (gap k : List α) (ps : List (List α × List α)) (tail : List α) (s' : Cut α) :
    append ⟨(gap, k) :: ps, tail⟩ s' =
      ⟨(gap, k) :: (append ⟨ps, tail⟩ s').pieces, (append ⟨ps, tail⟩ s').tail⟩ := by
  unfold append
  cases s'.pieces <;> rfl

theorem occursAt_left (hab : ¬ Straddled tokens a b) {x : List α} (hx : x ∈ tokens) {i : ℕ}
    (hi : i < a.length) (h : OccursAt x (a ++ b) i) : OccursAt x a i := by
  refine h.of_append ?_
  by_contra hlt
  exact hab ⟨x, hx, i, hi, h, by omega⟩

/-- Behind a text without tokens, another one is cut as it was. -/
theorem LeftmostLongest.append_left (hfree : ∀ i < a.length, ∀ x ∈ tokens, ¬ OccursAt x a i)
    (h' : LeftmostLongest tokens b s') (hab : ¬ Straddled tokens a b) :
    LeftmostLongest tokens (a ++ b) (append ⟨[], a⟩ s') := by
  -- a token stands nowhere in `a`, and in `b` where it stood
  have hstep : ∀ {n}, (∀ i < n, ∀ x ∈ tokens, ¬ OccursAt x b i) →
      ∀ i < a.length + n, ∀ x ∈ tokens, ¬ OccursAt x (a ++ b) i := by
    intro n hn i hi x hx hocc
    rcases Nat.lt_or_ge i a.length with hlt | hge
    · exact hfree i hlt x hx (occursAt_left hab hx hlt hocc)
    · obtain ⟨j, rfl⟩ := Nat.exists_eq_add_of_le hge
      rw [occursAt_append] at hocc
      exact hn j (by omega) x hx hocc
  obtain ⟨ps, tail⟩ := s'
  cases ps with
  | nil =>
    obtain ⟨rfl, hb⟩ := leftmostLongest_nil_iff.1 h'
    refine leftmostLongest_nil_iff.2 ⟨rfl, fun i hi => ?_⟩
    rw [List.length_append] at hi
    exact hstep hb i hi
  | cons p ps =>
    obtain ⟨gap, k⟩ := p
    obtain ⟨rest, rfl, hk, hgap, hlong, hrest⟩ := leftmostLongest_cons_iff.1 h'
    refine leftmostLongest_cons_iff.2 ⟨rest, by simp, hk, fun i hi => ?_, fun x hx hocc => ?_, hrest⟩
    · rw [List.length_append] at hi
      exact hstep hgap i hi
    · rw [List.length_append, occursAt_append] at hocc
      exact hlong x hx hocc

/-- **Where no token lies across the joint, the cuts of two texts one behind the other are the cut of
the whole.** -/
theorem LeftmostLongest.append (h : LeftmostLongest tokens a s) (h' : LeftmostLongest tokens b s')
    (hab : ¬ Straddled tokens a b) : LeftmostLongest tokens (a ++ b) (append s s') := by
  obtain ⟨ps, tail⟩ := s
  -- piece by piece of the first text, down to the gap at its end
  induction ps generalizing a with
  | nil =>
    obtain ⟨rfl, hfree⟩ := leftmostLongest_nil_iff.1 h
    exact append_left hfree h' hab
  | cons p ps ih =>
    obtain ⟨gap, k⟩ := p
    obtain ⟨rest, rfl, hk, hfree, hlong, hrest⟩ := leftmostLongest_cons_iff.1 h
    have hsplit : ((gap ++ k) ++ rest) ++ b = (gap ++ k) ++ (rest ++ b) := List.append_assoc ..
    have hlen : ((gap ++ k) ++ rest).length = gap.length + k.length + rest.length := by
      rw [List.length_append, List.length_append]
    have hpos : 0 < k.length := List.length_pos_iff.2 hk.2
    have hrestb : ¬ Straddled tokens rest b := by
      rintro ⟨x, hx, i, hi, hocc, hlt⟩
      refine hab ⟨x, hx, (gap ++ k).length + i, ?_, ?_, ?_⟩
      · rw [List.length_append]
        omega
      · rw [hsplit, occursAt_append]
        exact hocc
      · rw [hlen, List.length_append]
        omega
    rw [append_cons]
    refine leftmostLongest_cons_iff.2 ⟨rest ++ b, hsplit, hk, ?_, ?_, ih hrestb hrest⟩
    · intro i hi x hx hocc
      exact hfree i hi x hx (occursAt_left hab hx (by omega) hocc)
    · intro x hx hocc
      exact hlong x hx (occursAt_left hab hx (by omega) hocc)

variable [DecidableEq α]

/-- A gap that is not empty ends as it does whatever stands in front of it. -/
theorem replace_append_gap (c : α) (value : List α → List α) {front gap k : List α}
    (h : gap = [] → front.getLast? ≠ some c) :
    (if (front ++ gap).getLast? = some c then (front ++ gap).dropLast ++ k
      else (front ++ gap) ++ value k) =
      front ++ (if gap.getLast? = some c then gap.dropLast ++ k else gap ++ value k) := by
  by_cases hgap : gap = []
  · subst hgap
    simp [h rfl]
  · obtain ⟨g, x, rfl⟩ := (List.eq_nil_or_concat' gap).resolve_left hgap
    rw [← List.append_assoc, List.getLast?_concat, List.getLast?_concat, List.dropLast_concat,
      List.dropLast_concat]
    split <;> simp

/-- **Two cuts one behind the other are written one behind the other**, unless the sign that ends
the first one would escape the token that starts the second. -/
theorem replace_append (c : α) (value : List α → List α) (s s' : Cut α)
    (h : ∀ k ps, s'.pieces = ([], k) :: ps → s.tail.getLast? ≠ some c) :
    (append s s').replace c value = s.replace c value ++ s'.replace c value := by
  obtain ⟨ps, tail⟩ := s
  induction ps with
  | nil =>
    obtain ⟨ps', tail'⟩ := s'
    cases ps' with
    | nil => simp [append, replace]
    | cons p' ps' =>
      obtain ⟨gap, k⟩ := p'
      have hgap : gap = [] → tail.getLast? ≠ some c := by
        rintro rfl
        exact h k ps' rfl
      have hleft : append ⟨[], tail⟩ ⟨(gap, k) :: ps', tail'⟩ = ⟨(tail ++ gap, k) :: ps', tail'⟩ := rfl
      rw [hleft, replace_cons, replace_cons, replace_append_gap c value hgap, replace_nil,
        List.append_assoc]
  | cons p ps ih =>
    obtain ⟨gap, k⟩ := p
    rw [append_cons, replace_cons, replace_cons, List.append_assoc, ← ih h]

end Cut

open Cut Substitution

/-- **Substitution goes into the parts of a text** when nothing lies across the joint. -/
theorem Table.apply_append {t : Table} {a b : String}
    (hab : ¬ Straddled t.tokens a.toList b.toList)
    (hescape : ∀ k ∈ t.tokens, OccursAt k b.toList 0 → a.toList.getLast? ≠ some '\\') :
    t.apply (a ++ b) = t.apply a ++ t.apply b := by
  have ha := leftmostLongest_ofTable t a.toList
  have hb := leftmostLongest_ofTable t b.toList
  have hcut := ha.append hb hab
  rw [← String.toList_append] at hcut
  have hjoint : ∀ k ps, (ofText (ofTable t).tokens b.toList).pieces = ([], k) :: ps →
      (ofText (ofTable t).tokens a.toList).tail.getLast? ≠ some escape := by
    intro k ps hps hlast
    -- the token stands in front of the second text, and the gap is the end of the first
    have hk := hb.token_mem ([], k) (by simp [hps])
    refine hescape k hk.1 ⟨hk.2, ?_⟩ ?_
    · rw [← hb.flatten_eq]
      simp [flatten, hps]
    · rw [← ha.flatten_eq]
      unfold flatten
      rw [List.getLast?_append, hlast]
      rfl
  unfold Table.apply
  rw [apply_of_leftmostLongest hcut, replace_append _ _ _ _ hjoint, String.ofList_append,
    ← apply_of_leftmostLongest ha, ← apply_of_leftmostLongest hb]

/-- A sign that no token holds parts a text. -/
theorem Table.apply_append_sign {t : Table} {c : Char} (hc : c ≠ '\\') (ht : ∀ k ∈ t, c ∉ k.toList)
    (a b : String) :
    t.apply (a ++ String.singleton c ++ b) = t.apply a ++ String.singleton c ++ t.apply b := by
  have hsign : ∀ x ∈ t.tokens, c ∉ x := fun x hx => by simpa using ht (String.ofList x) hx
  have hno : ∀ x ∈ t.tokens, ∀ rest, ¬ OccursAt x (c :: rest) 0 := by
    intro x hx rest hocc
    have hnil : OccursAt x [] 0 := OccursAt.of_sign (hsign x hx) (a := []) hocc le_rfl
    exact absurd hnil.lt_length (by simp)
  have hc1 : (String.singleton c).toList = [c] := by simp
  have hone : t.apply (String.singleton c) = String.singleton c := by
    refine apply_of_forall_not ?_
    rw [hc1]
    intro i hi x hx
    obtain rfl : i = 0 := by simpa using hi
    exact hno x hx []
  rw [String.append_assoc, Table.apply_append, Table.apply_append, hone, String.append_assoc]
  -- behind the sign
  · rw [hc1]
    rintro ⟨x, hx, i, hi, hocc, -⟩
    obtain rfl : i = 0 := by simpa using hi
    exact hno x hx b.toList hocc
  · intro k hk hocc
    rw [hc1]
    simpa using hc
  -- in front of it
  · rw [String.toList_append, hc1]
    rintro ⟨x, hx, i, hi, hocc, hlt⟩
    have hend := (OccursAt.of_sign (hsign x hx) hocc hi.le).2.length_le
    rw [List.length_drop] at hend
    omega
  · intro k hk hocc
    rw [String.toList_append, hc1] at hocc
    exact absurd hocc (hno k hk _)

theorem Table.apply_intercalate {t : Table} (ht : ∀ k ∈ t, '\n' ∉ k.toList) (lines : List String) :
    t.apply ("\n".intercalate lines) = "\n".intercalate (lines.map t.apply) := by
  have hempty : t.apply "" = "" := apply_of_forall_not (by simp)
  induction lines with
  | nil => simpa using hempty
  | cons line lines ih =>
    cases lines with
    | nil => simp
    | cons next lines =>
      rw [String.intercalate_cons_cons, List.map_cons, List.map_cons, String.intercalate_cons_cons,
        ← List.map_cons, ← ih]
      exact Table.apply_append_sign (by decide) ht line _

/-- **Substitution in parts.** Where no token starts in the first of two texts and ends in the second,
and no backslash that ends the first stands in front of a token that starts the second, both together
are substituted as each is alone. So where no token holds a newline, a document is substituted line
by line. -/
theorem apply_of_parts (t : Table) :
    (∀ a b : String, ¬ Straddled t.tokens a.toList b.toList →
      ¬ (a.toList.getLast? = some '\\' ∧ ∃ k ∈ t.tokens, k ≠ [] ∧ k <+: b.toList) →
      t.apply (a ++ b) = t.apply a ++ t.apply b) ∧
    ((∀ k ∈ t, '\n' ∉ k.toList) → ∀ document : String,
      t.apply document = "\n".intercalate
        ((Text.segments (· == '\n') document.toList).map fun line => t.apply (String.ofList line))) := by
  refine ⟨fun a b hab hescape => ?_, fun ht document => ?_⟩
  · refine Table.apply_append hab fun k hk hocc hlast => hescape ⟨hlast, k, hk, hocc.1, ?_⟩
    simpa using hocc.2
  · have hlines : document = "\n".intercalate
        ((Text.segments (· == '\n') document.toList).map String.ofList) := by
      rw [← String.toList_inj, String.toList_intercalate, List.map_map]
      simp [Function.comp_def, Text.intercalate_segments]
    conv_lhs => rw [hlines]
    rw [Table.apply_intercalate ht, List.map_map]
    rfl

/-- A backslash at the joint escapes nothing when no token starts behind it. -/
theorem apply_of_parts_nested :
    ¬ Straddled nestedTable.tokens "\\$a\\".toList "_1$a_1".toList ∧
      nestedTable.apply ("\\$a\\" ++ "_1$a_1") = "$a\\" ++ "_12" ∧
      (∀ k ∈ nestedTable, '\n' ∉ k.toList) ∧
      nestedTable.apply "$a\n\\$a_1\n" = "\n".intercalate ["1", "$a_1", ""] := by
  have hrows : ∀ k ∈ nestedTable, k = "$a" ∨ k = "$a_1" := by
    intro k hk
    obtain ⟨r, hr, rfl⟩ := mem_fill.1 hk
    revert r
    decide
  have htokens : ∀ k ∈ nestedTable.tokens, k = "$a".toList ∨ k = "$a_1".toList := by
    intro k hk
    rw [← String.toList_ofList (l := k)]
    exact (hrows _ hk).imp (congrArg String.toList) (congrArg String.toList)
  have hab : ¬ Straddled nestedTable.tokens "\\$a\\".toList "_1$a_1".toList := by
    have hends : ∀ k ∈ ["$a".toList, "$a_1".toList], ∀ i < "\\$a\\".toList.length,
        k <+: ("\\$a\\".toList ++ "_1$a_1".toList).drop i →
          i + k.length ≤ "\\$a\\".toList.length := by decide
    rintro ⟨k, hk, i, hi, hocc, hlt⟩
    have hle := hends k (by simpa using htokens k hk) i hi hocc.2
    omega
  have hescape : ¬ ("\\$a\\".toList.getLast? = some '\\' ∧
      ∃ k ∈ nestedTable.tokens, k ≠ [] ∧ k <+: "_1$a_1".toList) := by
    have hnot : ∀ k ∈ ["$a".toList, "$a_1".toList], ¬ k <+: "_1$a_1".toList := by decide
    rintro ⟨-, k, hk, -, hpre⟩
    exact hnot k (by simpa using htokens k hk) hpre
  have hline : ∀ k ∈ nestedTable, '\n' ∉ k.toList := by
    intro k hk
    rcases hrows k hk with rfl | rfl <;> decide
  refine ⟨hab, ?_, hline, ?_⟩
  · rw [(apply_of_parts nestedTable).1 _ _ hab hescape]
    decide +kernel
  · rw [(apply_of_parts nestedTable).2 hline]
    decide +kernel

end BootEnv
