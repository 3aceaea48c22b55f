import BootEnv.Binary64.Shortest
import BootEnv.Json.Reader

/-!
# Values of JSON numbers

What a number written in a JSON text is worth. One without point and power of ten is an integer if it
fits in 64 bits. Any other is a binary number: its leading digits, as many as fit in 64 bits, are
rounded and then multiplied or divided by a rounded power of ten. So the last bit may differ from
that of the nearest number.

* `NumberValue.ofLiteral`: the value of a number as it is written.
* `NumberValue.floatText`: a binary number in the shortest digits, with a power of ten where it is
  below `10 ^ -5` or not below `10 ^ 16`.
-/

namespace BootEnv.Json

/-- The value of a number. -/
inductive NumberValue where
  | integer (value : Int)
  | float (negative : Bool) (value : Binary64)
  deriving Repr, DecidableEq

namespace NumberValue

/-- The largest integer in 64 bits. -/
def maxWord : Nat := Nat.pow 2 64 - 1

/-- The largest power of ten that is written with a number. -/
def maxPower : Nat := Nat.pow 2 31 - 1

/-- The value of a decimal digit. -/
def digitValue (c : Char) : Nat := (digit? 10 c).getD 0

/-- Leading digits that fit in 64 bits, and how many digits are left. -/
def takeWhole (n : Nat) : List Char → Nat × Nat
  | [] => (n, 0)
  | d :: ds =>
    let next := n * 10 + digitValue d
    if next ≤ maxWord then takeWhole next ds else (n, ds.length + 1)

/-- Digits behind the point added to `n` for as long as they fit in 64 bits, and how many were. -/
def takeFraction (n used : Nat) : List Char → Nat × Nat
  | [] => (n, used)
  | d :: ds =>
    let next := n * 10 + digitValue d
    if next ≤ maxWord then takeFraction next (used + 1) ds else (n, used)

/-- The number nearest to a power of ten. -/
def power (k : Nat) : Binary64 := (Binary64.ofRatio? (Nat.pow 10 k) 1).getD ⟨0, 0⟩

/-- The number times a power of ten, step by step where the power cannot be represented. -/
def scale : Nat → Binary64 → Int → Except Fault Binary64
  | 0, x, _ => .ok x
  | steps + 1, x, e =>
    if e.natAbs ≤ 308 then
      match if 0 ≤ e then x.mul? (power e.natAbs) else x.div? (power e.natAbs) with
      | some y => .ok y
      | none => .error .numberTooLarge
    else if x.significand = 0 then .ok x
    else if 0 ≤ e then .error .numberTooLarge
    else scale steps ((x.div? (power 308)).getD x) (e + 308)

/-- The binary number of a literal. -/
def toFloat (l : Literal) : Except Fault Binary64 := do
  let (n, left) := takeWhole 0 l.whole
  let (n, used) := takeFraction n 0 l.fraction
  let e : Int := left - used
  let x := (Binary64.ofRatio? n 1).getD ⟨0, 0⟩
  match l.exponent with
  | none => scale 8 x e
  | some (isNegative, digits) =>
    let p := (Numeral.value? 10 digits).getD 0
    if maxPower < p then
      if n ≠ 0 ∧ !isNegative then throw .numberTooLarge else return ⟨0, 0⟩
    else scale 8 x (if isNegative then e - p else e + p)

/-- The value of a number as it is written. -/
def ofLiteral (l : Literal) : Except Fault NumberValue := do
  let n := (Numeral.value? 10 l.whole).getD 0
  if l.fraction.isEmpty && l.exponent.isNone && n ≤ maxWord then
    if !l.negative then return integer n
    else if n ≠ 0 ∧ n ≤ Nat.pow 2 63 then return integer (-n)
    else return float true ((Binary64.ofRatio? n 1).getD ⟨0, 0⟩)
  else return float l.negative (← toFloat l)

/-- A binary number in decimal. -/
def floatText (negative : Bool) (x : Binary64) : List Char :=
  let (digits, k) := x.shortest
  let e := Binary64.firstPower digits k
  (if negative then ['-'] else []) ++
    if -5 ≤ e ∧ e ≤ 15 then Binary64.positional digits k else Binary64.scientific digits k

end NumberValue

end BootEnv.Json
