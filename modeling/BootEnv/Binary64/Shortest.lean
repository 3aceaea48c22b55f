import BootEnv.Binary64.Round

/-!
# Shortest decimals

The decimal text of a binary number has the fewest digits that read back as that number, and of
several such texts the nearest one. A decimal reads back if it lies between the halfway points to
the neighbours; the halfway points themselves count when the significand is even.

* `Binary64.shortest`: the digits and their power of ten.
* `Binary64.positional`, `Binary64.scientific`: the two ways to write them.
-/

namespace BootEnv

namespace Binary64

/-- The power of ten of the leading digit of a quotient that is not zero. -/
def leadingPower (num den : Nat) : Int :=
  if den ≤ num then (Nat.toDigits 10 (num / den)).length - 1
  else -((Nat.toDigits 10 ((den - 1) / num)).length : Int)

/-- The candidates on the grid of the multiples of `10 ^ k`: the digits of the nearer of the two
neighbours of `x` that read back as `x`. -/
def onGrid? (x : Binary64) (k : Int) : Option Nat :=
  let q := x.exponent - 2
  let grid := up 10 k * up 2 (-q)
  let unit := up 2 q * up 10 (-k)
  let here := 4 * x.significand * unit
  let isLow := x.significand == Nat.pow 2 52 && minExponent < x.exponent
  let low := (4 * x.significand - (if isLow then 1 else 2)) * unit
  let high := (4 * x.significand + 2) * unit
  let closed := x.significand % 2 == 0
  let reads (c : Nat) : Bool :=
    if closed then low ≤ c * grid && c * grid ≤ high else low < c * grid && c * grid < high
  let c := here / grid
  let below := here - c * grid
  let above := (c + 1) * grid - here
  match reads c, reads (c + 1) with
  | true, true =>
    if below < above || (below == above && c % 2 == 0) then some c else some (c + 1)
  | true, false => some c
  | false, true => some (c + 1)
  | false, false => none

/-- Digits without their trailing zeros, and the power of ten they count. -/
def trimZeros : Nat → Nat → Int → Nat × Int
  | 0, digits, k => (digits, k)
  | fuel + 1, digits, k =>
    if digits ≠ 0 ∧ digits % 10 = 0 then trimZeros fuel (digits / 10) (k + 1) else (digits, k)

/-- The first grid, from coarse to fine, with a decimal that reads back as `x`. -/
def search (x : Binary64) (lead : Int) : Nat → Nat → Nat × Int
  | 0, _ => (0, 0)
  | left + 1, count =>
    let k := lead - count
    match onGrid? x k with
    | some digits => trimZeros 20 digits k
    | none => search x lead left (count + 1)

/-- The digits of the shortest decimal that reads back as `x`, and the power of ten of the last of
them. -/
def shortest (x : Binary64) : Nat × Int :=
  if x.significand = 0 then (0, 0) else search x (leadingPower x.num x.den) 18 0

/-- The power of ten of the first digit. -/
def firstPower (digits : Nat) (k : Int) : Int := (Nat.toDigits 10 digits).length - 1 + k

/-- The decimal `digits * 10 ^ k` with a point and at least one digit on each side of it. -/
def positional (digits : Nat) (k : Int) : List Char :=
  let ds := Nat.toDigits 10 digits
  if 0 ≤ k then ds ++ List.replicate k.toNat '0' ++ ['.', '0']
  else
    let back := (-k).toNat
    let padded := List.replicate (back + 1 - ds.length) '0' ++ ds
    padded.take (padded.length - back) ++ '.' :: padded.drop (padded.length - back)

/-- The decimal `digits * 10 ^ k` with one digit before the point, and a signed power of ten of at
least two digits. -/
def scientific (digits : Nat) (k : Int) : List Char :=
  let e := firstPower digits k
  let size := Nat.toDigits 10 e.natAbs
  let power := (if e < 0 then '-' else '+') :: (List.replicate (2 - size.length) '0' ++ size)
  match Nat.toDigits 10 digits with
  | [] => []
  | [d] => d :: 'e' :: power
  | d :: ds => d :: '.' :: ds ++ 'e' :: power

end Binary64

end BootEnv
