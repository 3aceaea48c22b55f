import BootEnv.Binary64.Shortest
import BootEnv.Numeral
import BootEnv.Text.Quoted
import BootEnv.Yaml.Event

/-!
# Kinds of scalars

What a scalar is taken for where it is not simply text: nothing, a truth value, a number or a
string. A plain scalar is what it looks like, a quoted one is a string, and a tag can ask for one
kind.

* `Kind.ofPlain`: what a plain scalar looks like.
* `Kind.ofScalar?`: what a scalar is; nothing if it is not what its tag asks for.
* `Kind.text`: how a message names a scalar.
-/

namespace BootEnv.Yaml

/-- What a scalar is taken for. -/
inductive Kind where
  | nothing
  | bool (value : Bool)
  | integer (value : Int)
  | float (isNegative : Bool) (value : Binary64)
  | infinite (isNegative : Bool)
  | notNumber
  | string (value : List Char)
  deriving Repr, DecidableEq

namespace Kind

/-- A text in lower case, capitalised or in upper case. -/
def isSpelling (word : String) (cs : List Char) : Bool :=
  let lower := word.toList
  let upper := lower.map Char.toUpper
  cs == lower || cs == upper.take 1 ++ lower.drop 1 || cs == upper

/-- The text looks like nothing. -/
def isNothing (cs : List Char) : Bool := cs.isEmpty || cs == ['~'] || isSpelling "null" cs

/-- The truth value that a text looks like. -/
def bool? (cs : List Char) : Option Bool :=
  if isSpelling "true" cs then some true
  else if isSpelling "false" cs then some false
  else none

/-- The sign in front of a number and what follows it. -/
def readSign : List Char → Bool × List Char
  | '-' :: cs => (true, cs)
  | '+' :: cs => (false, cs)
  | cs => (false, cs)

/-- Digits behind a zero, perhaps with a sign: no number. -/
def isPadded (cs : List Char) : Bool :=
  let digits := (readSign cs).2
  1 < digits.length && digits.head? == some '0' && digits.all (isDigit 10)

/-- The value of one digit or more. -/
def digits? (base : Nat) (cs : List Char) : Option Nat :=
  if cs.isEmpty then none else Numeral.value? base cs

/-- The absolute value of an integer, in decimal or behind the sign of a base. -/
def magnitude? : List Char → Option Nat
  | '0' :: 'x' :: cs => digits? 16 cs
  | '0' :: 'o' :: cs => digits? 8 cs
  | '0' :: 'b' :: cs => digits? 2 cs
  | cs => digits? 10 cs

/-- The least integer that is taken for a number. -/
def minInteger : Int := -Nat.pow 2 127

/-- The greatest integer that is taken for a number. -/
def maxInteger : Int := Nat.pow 2 128 - 1

/-- The integer that a text looks like. -/
def integer? (cs : List Char) : Option Int := do
  if isPadded cs then none
  else
    let (isNegative, rest) := readSign cs
    let n ← magnitude? rest
    let value : Int := if isNegative then -n else n
    if minInteger ≤ value ∧ value ≤ maxInteger then some value else none

/-- The power of ten behind the digits of a number. -/
def power? : List Char → Option Int
  | [] => some 0
  | e :: cs =>
    if e = 'e' ∨ e = 'E' then
      let (isNegative, digits) := readSign cs
      (digits? 10 digits).map fun n => if isNegative then -n else n
    else none

/-- The digits behind a point, if there is one. -/
def readFraction : List Char → List Char × List Char
  | '.' :: cs => (cs.takeWhile (isDigit 10), cs.dropWhile (isDigit 10))
  | cs => ([], cs)

/-- The value of a decimal without sign; `none` also if it is too large. -/
def decimal? (cs : List Char) : Option Binary64 := do
  let whole := cs.takeWhile (isDigit 10)
  let (fraction, rest) := readFraction (cs.drop whole.length)
  let digits ← digits? 10 (whole ++ fraction)
  let power ← power? rest
  Binary64.ofDecimal? digits (power - fraction.length)

/-- The word for what is beyond all numbers. -/
def isInfinity (cs : List Char) : Bool :=
  [".inf".toList, ".Inf".toList, ".INF".toList].contains cs

/-- The word for what is no number. -/
def isNotNumber (cs : List Char) : Bool :=
  [".nan".toList, ".NaN".toList, ".NAN".toList].contains cs

/-- The number, other than an integer, that a text looks like. -/
def float? (cs : List Char) : Option Kind :=
  let (isNegative, rest) := readSign cs
  if isInfinity rest then some (infinite isNegative)
  else if isNotNumber cs then some notNumber
  else (decimal? rest).map (float isNegative)

/-- What a plain scalar looks like. -/
def ofPlain (cs : List Char) : Kind :=
  if isNothing cs then nothing
  else
    match bool? cs, integer? cs with
    | some b, _ => bool b
    | _, some n => integer n
    | _, _ => if isPadded cs then string cs else (float? cs).getD (string cs)

/-- A kind of scalar that a tag can ask for. -/
inductive Wanted where
  | nothing
  | bool
  | integer
  | float
  deriving Repr, DecidableEq

namespace Wanted

/-- The tag that asks for a kind. -/
def tag : Wanted → List Char
  | nothing => "tag:yaml.org,2002:null".toList
  | bool => "tag:yaml.org,2002:bool".toList
  | integer => "tag:yaml.org,2002:int".toList
  | float => "tag:yaml.org,2002:float".toList

/-- The kind that a tag asks for. -/
def ofTag? (tag : List Char) : Option Wanted :=
  [nothing, bool, integer, float].find? fun w => w.tag == tag

/-- How a message names what is asked for. -/
def text : Wanted → String
  | nothing => "null"
  | bool => "a boolean"
  | integer => "an integer"
  | float => "a float"

/-- The text as the kind that is asked for. -/
def read? (cs : List Char) : Wanted → Option Kind
  | nothing => if !cs.isEmpty && isNothing cs then some .nothing else none
  | bool => (bool? cs).map .bool
  | integer => (integer? cs).map .integer
  | float => float? cs

end Wanted

/-- What a scalar is; the kind that its tag asks for if it is not of that kind. -/
def ofScalar (tag : Option (List Char)) (s : Scalar) : Except Wanted Kind :=
  match tag.bind Wanted.ofTag? with
  | some wanted =>
    match wanted.read? s.text with
    | some k => .ok k
    | none => .error wanted
  | none =>
    let isBare := tag.all fun t => t.head? == some '!'
    .ok (if s.isPlain && isBare then ofPlain s.text else string s.text)

/-- The width beyond which a message tells how an integer is held. -/
def widthNote (n : Int) : String :=
  if Nat.pow 2 64 ≤ n then " as u128" else if n < -Nat.pow 2 63 then " as i128" else ""

/-- The text of a number with a point. -/
def floatText (isNegative : Bool) (x : Binary64) : List Char :=
  let (digits, k) := x.shortest
  (if isNegative then ['-'] else []) ++ Binary64.positional digits k

/-- How a message names a scalar. -/
def text : Kind → String
  | nothing => "unit value"
  | bool b => "boolean `" ++ (if b then "true" else "false") ++ "`"
  | integer n => "integer `" ++ toString n ++ "`" ++ widthNote n
  | float isNegative x => "floating point `" ++ String.ofList (floatText isNegative x) ++ "`"
  | infinite isNegative => "floating point `" ++ (if isNegative then "-inf" else "inf") ++ "`"
  | notNumber => "floating point `NaN`"
  | string s => "string " ++ Text.quoted (String.ofList s)

end Kind

end BootEnv.Yaml
