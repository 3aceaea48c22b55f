import BootEnv.Token.Basic

/-!
# Substitution

One scan from left to right finds the tokens of a text: at each position the longest token that
stands there, and behind it the scan goes on. What stands between two tokens is a gap. A token whose
gap ends in a backslash is escaped: the backslash goes and the token stays. Any other token gives
way to its value. Values are not scanned.

The scan works over any alphabet, so it can be run over the characters of a text and over the octets
of its encoding alike.

* `longestAt?`: the longest token in front of a text.
* `Cut.ofText`: the gaps and tokens of a text. They depend on the tokens alone.
* `Cut.flatten_ofText`: **gaps and tokens together are the text**.
* `Substitution.apply`: the text with its tokens replaced.
-/

namespace BootEnv

variable {α : Type} [DecidableEq α]

/-- The token `k` is not empty and stands in front of the text. -/
def standsAt (k text : List α) : Bool := !k.isEmpty && k.isPrefixOf text

/-- The longest token in front of a text. -/
def longestAt? : List (List α) → List α → Option (List α)
  | [], _ => none
  | k :: ks, text =>
    match longestAt? ks text with
    | none => if standsAt k text then some k else none
    | some best => if standsAt k text && best.length < k.length then some k else some best

theorem standsAt_of_longestAt? {ks : List (List α)} {text k : List α}
    (h : longestAt? ks text = some k) : k ∈ ks ∧ standsAt k text = true := by
  induction ks generalizing k with
  | nil => simp [longestAt?] at h
  | cons x ks ih =>
    simp only [longestAt?] at h
    split at h
    · split at h
      next hs =>
        simp only [Option.some.injEq] at h
        subst h
        exact ⟨List.mem_cons_self, hs⟩
      · simp at h
    next best hb =>
      split at h
      next hs =>
        simp only [Option.some.injEq] at h
        subst h
        simp only [Bool.and_eq_true] at hs
        exact ⟨List.mem_cons_self, hs.1⟩
      · simp only [Option.some.injEq] at h
        subst h
        exact ⟨List.mem_cons_of_mem x (ih hb).1, (ih hb).2⟩

theorem standsAt_iff {k text : List α} :
    standsAt k text = true ↔ k ≠ [] ∧ ∃ rest, text = k ++ rest := by
  simp only [standsAt, Bool.and_eq_true, Bool.not_eq_true', List.isEmpty_eq_false_iff,
    List.isPrefixOf_iff_prefix, ne_eq, and_congr_right_iff]
  intro _
  exact ⟨fun ⟨r, hr⟩ => ⟨r, hr.symm⟩, fun ⟨r, hr⟩ => ⟨r, hr.symm⟩⟩

/-- A text cut into gaps, each with the token behind it, and what follows the last token. -/
structure Cut (α : Type) where
  pieces : List (List α × List α)
  tail : List α
  deriving Repr, DecidableEq

namespace Cut

/-- One more element in front of a cut text: it belongs to the first gap. -/
def cons (c : α) (s : Cut α) : Cut α :=
  match s.pieces with
  | [] => ⟨[], c :: s.tail⟩
  | (gap, k) :: ps => ⟨(c :: gap, k) :: ps, s.tail⟩

/-- The text that was cut. -/
def flatten (s : Cut α) : List α := s.pieces.flatMap (fun p => p.1 ++ p.2) ++ s.tail

/-- The gaps and tokens of a text, from left to right. -/
def ofText (tokens : List (List α)) : List α → Cut α
  | [] => ⟨[], []⟩
  | c :: cs =>
    match longestAt? tokens (c :: cs) with
    | some k =>
      let rest := ofText tokens (cs.drop (k.length - 1))
      ⟨([], k) :: rest.pieces, rest.tail⟩
    | none => cons c (ofText tokens cs)
termination_by text => text.length
decreasing_by
  · simp only [List.length_drop, List.length_cons]
    omega
  · simp

omit [DecidableEq α] in
@[simp] theorem flatten_cons (c : α) (s : Cut α) : (cons c s).flatten = c :: s.flatten := by
  obtain ⟨ps, tail⟩ := s
  cases ps <;> simp [cons, flatten]

/-- **The gaps and tokens of a text make up the text.** -/
theorem flatten_ofText (tokens : List (List α)) (text : List α) :
    (ofText tokens text).flatten = text := by
  fun_induction ofText tokens text with
  | case1 => rfl
  | case2 c cs k hk rest ih =>
    obtain ⟨hne, r, hr⟩ := standsAt_iff.1 (standsAt_of_longestAt? hk).2
    cases k with
    | nil => exact absurd rfl hne
    | cons x k =>
      simp only [List.cons_append, List.cons.injEq] at hr
      obtain ⟨rfl, rfl⟩ := hr
      simpa [flatten, rest] using ih
  | case3 c cs hk ih => simp [ih]

/-- The text with each token replaced by its value, or kept, less the sign in front of it, when it
is escaped. -/
def replace (escape : α) (value : List α → List α) (s : Cut α) : List α :=
  s.pieces.flatMap (fun p =>
    if p.1.getLast? = some escape then p.1.dropLast ++ p.2 else p.1 ++ value p.2) ++ s.tail

@[simp] theorem replace_nil (escape : α) (value : List α → List α) (tail : List α) :
    replace escape value ⟨[], tail⟩ = tail := rfl

theorem replace_cons (escape : α) (value : List α → List α) (gap k : List α)
    (ps : List (List α × List α)) (tail : List α) :
    replace escape value ⟨(gap, k) :: ps, tail⟩ =
      (if gap.getLast? = some escape then gap.dropLast ++ k else gap ++ value k) ++
        replace escape value ⟨ps, tail⟩ := by
  simp [replace]

end Cut

/-- The tokens to look for, each with its value. -/
structure Substitution where
  rules : List (List Char × List Char)
  deriving Repr, DecidableEq

namespace Substitution

/-- The sign that escapes a token. -/
def escape : Char := '\\'

/-- The substitution of a table: its tokens, but for the empty one. -/
def ofTable (t : Table) : Substitution :=
  ⟨(t.toList.filter fun r => !r.1.isEmpty).map fun r => (r.1.toList, r.2.value.toList)⟩

/-- The tokens, without their values. -/
def tokens (s : Substitution) : List (List Char) := s.rules.map Prod.fst

/-- The value of a token. -/
def value (s : Substitution) (k : List Char) : List Char := (s.rules.lookup k).getD []

/-- A text with its tokens replaced. -/
def applyChars (s : Substitution) (text : List Char) : List Char :=
  (Cut.ofText s.tokens text).replace escape s.value

/-- A text with its tokens replaced. -/
def apply (s : Substitution) (text : String) : String :=
  String.ofList (s.applyChars text.toList)

end Substitution

/-- A text with the tokens of a table replaced. -/
def Table.apply (t : Table) (text : String) : String := (Substitution.ofTable t).apply text

end BootEnv
