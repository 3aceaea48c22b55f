/-!
# Binary numbers with 53 bits

The finite non-negative numbers of the binary format of 64 bits, in exact arithmetic: a significand
below `2 ^ 53` times a power of two not below `2 ^ -1074`.

* `Binary64.divRound_near`, `Binary64.divRound_even`: **rounding a quotient moves it by half a unit at
  most, and by half a unit to the even number.**
* `Binary64.ofRatio?`: a quotient rounded to the nearest such number, of two equally near ones to
  the one with an even significand; `none` when it is too large.
* `Binary64.mul?`, `Binary64.div?`: product and quotient, rounded so.
-/

namespace BootEnv

/-- The number `significand * 2 ^ exponent`. -/
structure Binary64 where
  significand : Nat
  exponent : Int
  deriving Repr, DecidableEq

namespace Binary64

/-- The least exponent. -/
def minExponent : Int := -1074

/-- The greatest exponent. -/
def maxExponent : Int := 971

/-- Two to a power, as the numerator of a ratio; one when the power is negative. -/
def up (base : Nat) (e : Int) : Nat := base.pow e.toNat

/-- The quotient to the nearest number, a half to the even one. -/
def divRound (num den : Nat) : Nat :=
  let q := num / den
  let twice := 2 * (num % den)
  if den < twice || (twice == den && q % 2 == 1) then q + 1 else q

/-- **The quotient is at most half a unit off.** -/
theorem divRound_near (num : Nat) {den : Nat} (h : 0 < den) :
    2 * num ≤ 2 * (den * divRound num den) + den ∧ 2 * (den * divRound num den) ≤ 2 * num + den := by
  have hsplit := Nat.div_add_mod num den
  have hlt := Nat.mod_lt num h
  unfold divRound
  dsimp only
  split
  next hup =>
    have hhalf : den ≤ 2 * (num % den) := by
      simp only [Bool.or_eq_true, decide_eq_true_eq, Bool.and_eq_true, beq_iff_eq] at hup
      omega
    rw [Nat.mul_add, Nat.mul_one]
    omega
  next hdown =>
    have hhalf : 2 * (num % den) ≤ den := by
      simp only [Bool.or_eq_true, decide_eq_true_eq, Bool.and_eq_true, beq_iff_eq] at hdown
      omega
    omega

/-- **Of two neighbours equally near the even one is taken.** -/
theorem divRound_even {num den : Nat} (h : 2 * (num % den) = den) : divRound num den % 2 = 0 := by
  unfold divRound
  simp only [h, Nat.lt_irrefl, decide_false, Bool.false_or, beq_self_eq_true, Bool.true_and, beq_iff_eq]
  split <;> omega

example : divRound 1 2 = 0 ∧ divRound 3 2 = 2 := by decide

/-- The exponent at which the quotient has 53 bits, or the least exponent. -/
def exponentOf (num den : Nat) : Int :=
  let e : Int := (Nat.log2 num : Int) - Nat.log2 den - 53
  let e := if den * up 2 (53 + e) ≤ num * up 2 (-(53 + e)) then e + 1 else e
  max minExponent e

/-- The number nearest to a quotient; `none` if that is beyond the largest one. -/
def ofRatio? (num den : Nat) : Option Binary64 :=
  if num = 0 then some ⟨0, minExponent⟩
  else
    let e := exponentOf num den
    let m := divRound (num * up 2 (-e)) (den * up 2 e)
    let x : Binary64 := if m = Nat.pow 2 53 then ⟨Nat.pow 2 52, e + 1⟩ else ⟨m, e⟩
    if maxExponent < x.exponent then none else some x

/-- The numerator of the number as a fraction. -/
def num (x : Binary64) : Nat := x.significand * up 2 x.exponent

/-- The denominator of the number as a fraction. -/
def den (x : Binary64) : Nat := up 2 (-x.exponent)

/-- The product, rounded. -/
def mul? (x y : Binary64) : Option Binary64 := ofRatio? (x.num * y.num) (x.den * y.den)

/-- The quotient, rounded. -/
def div? (x y : Binary64) : Option Binary64 := ofRatio? (x.num * y.den) (x.den * y.num)

/-- The number nearest to `digits * 10 ^ exponent`. Exponents that lie far outside decide the
answer by themselves. -/
def ofDecimal? (digits : Nat) (exponent : Int) : Option Binary64 :=
  let size : Int := (Nat.toDigits 10 digits).length + exponent
  if digits = 0 || size < -330 then some ⟨0, minExponent⟩
  else if 310 < size then none
  else ofRatio? (digits * up 10 exponent) (up 10 (-exponent))

end Binary64

end BootEnv
