import BootEnv.Numeral
import Mathlib.Data.Char
import Mathlib.Data.List.Basic
import Mathlib.Tactic.Common

/-!
# Hexadecimal numerals

What a hexadecimal numeral is, said by its sixteen signs: a sign in either case is worth its place
among them, and a run of signs is worth what its signs add up to. The readers of numerals agree with
that, on every text.

* `digit?_hex`: a character is read as a digit when it is one of the signs.
* `Numeral.value?_hex_iff`: **a run of signs has its value, and any other text has none.**
* `Numeral.parse?_plus`, `Numeral.parse?_of_head?`: the sign in front of a numeral.
-/

namespace BootEnv

variable {c : Char} {cs : List Char} {n : ℕ}

/-- The signs of hexadecimal numerals, by their value. -/
def hexSigns : List Char := "0123456789abcdef".toList

/-- A sign in either case. -/
def IsHex (c : Char) : Prop := c.toLower ∈ hexSigns

instance : DecidablePred IsHex := fun c => inferInstanceAs (Decidable (c.toLower ∈ hexSigns))

/-- What a sign is worth. -/
def hexWorth (c : Char) : ℕ := hexSigns.idxOf c.toLower

/-- What a run of signs is worth. -/
def hexValue (cs : List Char) : ℕ := cs.foldl (fun n c => 16 * n + hexWorth c) 0

section Digits

/-- A character is read as a digit when it is one of the signs. -/
theorem digit?_hex (c : Char) : digit? 16 c = if IsHex c then some (hexWorth c) else none := by
  by_cases hc : c.toNat < 128
  · -- the characters of this range are few enough to look at each
    have hall : ∀ n < 128, digit? 16 (Char.ofNat n) =
        if IsHex (Char.ofNat n) then some (hexWorth (Char.ofNat n)) else none := by
      decide +kernel
    have := hall c.toNat hc
    rwa [Char.ofNat_toNat] at this
  · have hle : ∀ d : Char, d.toNat < 128 → ¬ c ≤ d := by
      intro d hd hcd
      have : c.toNat ≤ d.toNat := hcd
      omega
    have hlower : c.toLower = c := by
      unfold Char.toLower
      rw [dif_neg]
      exact fun h => hle 'Z' (by decide) h.2
    have hsign : ¬ IsHex c := by
      unfold IsHex
      rw [hlower]
      intro hmem
      have hsmall : hexSigns.all (fun d => d.toNat < 128) = true := by decide
      exact hc (of_decide_eq_true (List.all_eq_true.1 hsmall c hmem))
    rw [if_neg hsign]
    unfold digit?
    have h9 := hle '9' (by decide)
    have hf := hle 'f' (by decide)
    have hF := hle 'F' (by decide)
    simp [h9, hf, hF]

namespace Numeral

theorem valueFrom?_hex_iff {m n : ℕ} : valueFrom? 16 m cs = some n ↔
    (∀ c ∈ cs, IsHex c) ∧ cs.foldl (fun n c => 16 * n + hexWorth c) m = n := by
  induction cs generalizing m with
  | nil => simp [valueFrom?]
  | cons c cs ih =>
    rw [valueFrom?, digit?_hex]
    by_cases hc : IsHex c
    · simp [hc, ih]
    · simp [hc]

/-- **A run of signs has its value, and any other text has none.** -/
theorem value?_hex_iff {n : ℕ} :
    value? 16 cs = some n ↔ (∀ c ∈ cs, IsHex c) ∧ hexValue cs = n :=
  valueFrom?_hex_iff

theorem parse?_plus (b : ℕ) (cs : List Char) :
    parse? b ('+' :: cs) = if cs = [] then none else value? b cs := by
  unfold parse?
  simp

theorem parse?_of_head? (b : ℕ) (h : cs.head? ≠ some '+') :
    parse? b cs = if cs = [] then none else value? b cs := by
  unfold parse?
  simp [h]

end Numeral

end Digits

end BootEnv
