import BootEnv.Numeral
import Mathlib.Data.List.Basic
import Mathlib.Tactic.Common

/-!
# Numbers read back from their digits

A number is written with the digits of its base, without leading zeros. A reader takes the longest
run of digits in front of a text, so it takes that number where no digit follows.

* `value?_toDigits`: **the digits of a number have its value.**
* `isDigit_of_mem_toDigits`: they are digits.
* `head?_toDigits`: only zero starts with a zero.
* `NoDigit`, `takeWhile_append_of_noDigit`: a run of digits ends where no digit follows.
* `parse?_decimal`: **a decimal text is read as its number.**
* `mem_of_parse?`: what is read as a number holds digits and a plus sign.
-/

namespace BootEnv

variable {b n : ℕ} {c : Char} {cs : List Char}

theorem digit?_digitChar (hb : b ≤ 16) (hn : n < b) : digit? b (Nat.digitChar n) = some n := by
  have hall : ∀ b ≤ 16, ∀ n < b, digit? b (Nat.digitChar n) = some n := by decide
  exact hall b hb n hn

/-- A digit of a smaller base is one of a greater. -/
theorem isDigit_mono {b' : ℕ} (hb : b ≤ b') (h : isDigit b c = true) : isDigit b' c = true := by
  unfold isDigit digit? at h ⊢
  obtain ⟨n, hn⟩ := Option.isSome_iff_exists.1 h
  rw [Option.filter_eq_some_iff, decide_eq_true_eq] at hn
  refine Option.isSome_iff_exists.2 ⟨n, ?_⟩
  rw [Option.filter_eq_some_iff, decide_eq_true_eq]
  exact ⟨hn.1, by omega⟩

theorem isDigit_of_mem_toDigits (hb : 1 < b) (hb' : b ≤ 16) (h : c ∈ Nat.toDigits b n) :
    isDigit b c = true := by
  have hdigit : ∀ d < b, isDigit b (Nat.digitChar d) = true := by
    intro d hd
    unfold isDigit
    rw [digit?_digitChar hb' hd]
    rfl
  induction n using Nat.strongRecOn with
  | ind n ih =>
    rw [Nat.toDigits_eq_if hb] at h
    split at h
    next hn =>
      obtain rfl := List.mem_singleton.1 h
      exact hdigit n hn
    next hn =>
      rcases List.mem_append.1 h with h | h
      · exact ih _ (Nat.div_lt_self (by omega) hb) h
      · obtain rfl := List.mem_singleton.1 h
        exact hdigit _ (Nat.mod_lt n (by omega))

theorem head?_toDigits (hb : 1 < b) (hb' : b ≤ 16) (hn : n ≠ 0) :
    (Nat.toDigits b n).head? ≠ some '0' := by
  have hdigit : ∀ d < 16, d ≠ 0 → Nat.digitChar d ≠ '0' := by decide
  induction n using Nat.strongRecOn with
  | ind n ih =>
    rw [Nat.toDigits_eq_if hb]
    split
    next hlt =>
      rw [List.head?_cons, ne_eq, Option.some.injEq]
      exact hdigit n (by omega) hn
    next hge =>
      -- the digit in front is that of the quotient
      have hq : n / b ≠ 0 := Nat.div_ne_zero_iff.2 ⟨by omega, by omega⟩
      rw [List.head?_append_of_ne_nil _ Nat.toDigits_ne_nil]
      exact ih _ (Nat.div_lt_self (by omega) hb) hq

namespace Numeral

/-- **The digits of a number have its value.** -/
theorem value?_toDigits (hb : 1 < b) (hb' : b ≤ 16) (n : ℕ) :
    value? b (Nat.toDigits b n) = some n := by
  have hdigit : ∀ m d, d < b → valueFrom? b m [Nat.digitChar d] = some (b * m + d) := by
    intro m d hd
    simp only [valueFrom?, digit?_digitChar hb' hd, Option.bind_some]
  induction n using Nat.strongRecOn with
  | ind n ih =>
    unfold value? at ih ⊢
    rw [Nat.toDigits_eq_if hb]
    split
    next hn => rw [hdigit 0 n hn, Nat.mul_zero, Nat.zero_add]
    next hn =>
      rw [valueFrom?_append, ih _ (Nat.div_lt_self (by omega) hb), Option.bind_some,
        hdigit _ _ (Nat.mod_lt n (by omega)), Nat.div_add_mod]

theorem isDigit_of_valueFrom? (h : valueFrom? b n cs ≠ none) : ∀ c ∈ cs, isDigit b c = true := by
  induction cs generalizing n with
  | nil => simp
  | cons d cs ih =>
    intro c hc
    rw [valueFrom?] at h
    cases hd : digit? b d with
    | none => exact absurd (by rw [hd]; rfl) h
    | some m =>
      rw [hd, Option.bind_some] at h
      rcases List.mem_cons.1 hc with rfl | hc
      · exact Option.isSome_iff_exists.2 ⟨m, hd⟩
      · exact ih h c hc

/-- What is read as a number holds digits, and a plus sign in front of them. -/
theorem mem_of_parse? (h : parse? b cs ≠ none) (hc : c ∈ cs) : c = '+' ∨ isDigit b c = true := by
  unfold parse? at h
  dsimp only at h
  split at h
  next hplus =>
    obtain ⟨rest, rfl⟩ := List.head?_eq_some_iff.1 hplus
    rw [List.tail_cons] at h
    split at h
    · exact absurd rfl h
    · exact (List.mem_cons.1 hc).imp_right (isDigit_of_valueFrom? h c)
  next =>
    split at h
    · exact absurd rfl h
    · exact .inr (isDigit_of_valueFrom? h c hc)

/-- **A decimal text is read as its number.** -/
theorem parse?_decimal (n : ℕ) : parse? 10 (decimal n) = some n := by
  have hplus : (decimal n).head? ≠ some '+' := by
    intro h
    have hdigit := isDigit_of_mem_toDigits (by decide) (by decide) (List.mem_of_mem_head? h)
    exact absurd hdigit (by decide)
  have hne : (decimal n).isEmpty = false := by simp [decimal, Nat.toDigits_ne_nil]
  unfold parse?
  rw [if_neg hplus]
  dsimp only
  rw [hne]
  exact value?_toDigits (by decide) (by decide) n

end Numeral

/-- No digit of the base stands in front of the text. -/
def NoDigit (b : ℕ) (rest : List Char) : Prop := ∀ c ∈ rest.head?, isDigit b c = false

theorem noDigit_nil : NoDigit b [] := by simp [NoDigit]

theorem noDigit_cons (h : isDigit b c = false) : NoDigit b (c :: cs) := by simpa [NoDigit] using h

theorem takeWhile_of_noDigit (h : NoDigit b cs) :
    cs.takeWhile (isDigit b) = [] ∧ cs.dropWhile (isDigit b) = cs := by
  cases cs with
  | nil => exact ⟨rfl, rfl⟩
  | cons c cs =>
    have hc : isDigit b c = false := h c rfl
    simp [hc]

/-- **A run of digits ends where no digit follows.** -/
theorem takeWhile_append_of_noDigit {rest : List Char} (h : ∀ c ∈ cs, isDigit b c = true)
    (hrest : NoDigit b rest) :
    (cs ++ rest).takeWhile (isDigit b) = cs ∧ (cs ++ rest).dropWhile (isDigit b) = rest := by
  rw [List.takeWhile_append_of_pos h, List.dropWhile_append_of_pos h]
  obtain ⟨htake, hdrop⟩ := takeWhile_of_noDigit hrest
  rw [htake, hdrop, List.append_nil]
  exact ⟨rfl, rfl⟩

end BootEnv
