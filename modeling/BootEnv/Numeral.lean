/-!
# Numerals

Unsigned numerals in a base up to sixteen: an optional plus sign and at least one digit, letters in
either case, leading zeros allowed.

* `digit?`: the value of one digit.
* `Numeral.value?`: the value of a run of digits.
* `Numeral.parse?`: the value of a whole numeral.
-/

namespace BootEnv

/-- The value of a digit in the given base; `none` for any other character. -/
def digit? (base : Nat) (c : Char) : Option Nat :=
  let value? :=
    if '0' ≤ c ∧ c ≤ '9' then some (c.toNat - '0'.toNat)
    else if 'a' ≤ c ∧ c ≤ 'f' then some (c.toNat - 'a'.toNat + 10)
    else if 'A' ≤ c ∧ c ≤ 'F' then some (c.toNat - 'A'.toNat + 10)
    else none
  value?.filter (· < base)

/-- A digit of the given base. -/
def isDigit (base : Nat) (c : Char) : Bool := (digit? base c).isSome

namespace Numeral

/-- The value of further digits behind those worth `n`. -/
def valueFrom? (base n : Nat) : List Char → Option Nat
  | [] => some n
  | c :: cs => (digit? base c).bind fun d => valueFrom? base (base * n + d) cs

/-- The value of a run of digits, most significant first; `none` if it holds anything else. -/
def value? (base : Nat) (cs : List Char) : Option Nat := valueFrom? base 0 cs

/-- The value of a numeral. -/
def parse? (base : Nat) (cs : List Char) : Option Nat :=
  let digits := if cs.head? = some '+' then cs.tail else cs
  if digits.isEmpty then none else value? base digits

theorem valueFrom?_append (base n : Nat) (a b : List Char) :
    valueFrom? base n (a ++ b) = (valueFrom? base n a).bind fun m => valueFrom? base m b := by
  induction a generalizing n with
  | nil => rfl
  | cons c a ih =>
    simp only [List.cons_append, valueFrom?]
    cases digit? base c with
    | none => rfl
    | some d => simp [ih]

end Numeral

/-- The decimal text of a number. -/
def decimal (n : Nat) : List Char := Nat.toDigits 10 n

end BootEnv
