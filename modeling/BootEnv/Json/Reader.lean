import BootEnv.Numeral

/-!
# Reading JSON

Readers of the parts of a JSON text. Each takes its part from the front of a text and returns what
it says with the rest. A value that does not matter is skipped: it must be well formed, but its
strings may name half a surrogate pair and its numbers may be of any size.

* `Json.readString`, `Json.readNumber`: strings and numbers.
* `Json.skipValue`: any value, to whatever depth.
* `Json.Fault`: why a text cannot be read.
-/

namespace BootEnv.Json

/-- Why a JSON text cannot be read. -/
inductive Fault where
  /-- The text ends inside a list. -/
  | endInList
  /-- The text ends inside an object. -/
  | endInObject
  /-- The text ends inside a string. -/
  | endInString
  /-- The text ends where a value is due. -/
  | endInValue
  | expectedColon
  | expectedListEnd
  | expectedObjectEnd
  /-- A word that starts like `null`, `true` or `false` and is none of them. -/
  | expectedWord
  | expectedValue
  | badEscape
  | badNumber
  /-- A number too large to be represented. -/
  | numberTooLarge
  | controlInString
  | nameNotString
  /-- One half of a surrogate pair without the other. -/
  | loneSurrogate
  /-- The first half of a surrogate pair with nothing escaped behind it. -/
  | brokenPair
  | trailingComma
  | trailingText
  deriving Repr, DecidableEq

namespace Fault

/-- The text ended too early. -/
def isEnd : Fault → Bool
  | endInList | endInObject | endInString | endInValue => true
  | _ => false

/-- The text shown for a fault. -/
def text : Fault → String
  | endInList => "EOF while parsing a list"
  | endInObject => "EOF while parsing an object"
  | endInString => "EOF while parsing a string"
  | endInValue => "EOF while parsing a value"
  | expectedColon => "expected `:`"
  | expectedListEnd => "expected `,` or `]`"
  | expectedObjectEnd => "expected `,` or `\x7d`"
  | expectedWord => "expected ident"
  | expectedValue => "expected value"
  | badEscape => "invalid escape"
  | badNumber => "invalid number"
  | numberTooLarge => "number out of range"
  | controlInString => "control character (\\u0000-\\u001F) found while parsing a string"
  | nameNotString => "key must be a string"
  | loneSurrogate => "lone leading surrogate in hex escape"
  | brokenPair => "unexpected end of hex escape"
  | trailingComma => "trailing comma"
  | trailingText => "trailing characters"

end Fault

/-- A character that may stand between the parts of a text. -/
def isBlank (c : Char) : Bool := c == ' ' || c == '\n' || c == '\t' || c == '\r'

/-- The text behind its leading blanks. -/
def skipBlanks (cs : List Char) : List Char := cs.dropWhile isBlank

/-- The text behind the given word. -/
def readWord (word cs : List Char) : Except Fault (List Char) :=
  match word, cs with
  | [], cs => .ok cs
  | _ :: _, [] => .error .endInValue
  | w :: word, c :: cs => if w = c then readWord word cs else .error .expectedWord

/-! ## Strings -/

/-- The value of four hexadecimal digits. With fewer than four octets left the text has ended. -/
def readHex (cs : List Char) : Except Fault Nat :=
  if (String.ofList (cs.take 4)).utf8ByteSize < 4 then .error .endInString
  else
    match Numeral.value? 16 (cs.take 4) with
    | some n => .ok n
    | none => .error .badEscape

/-- The first half of a surrogate pair. -/
def isHigh (n : Nat) : Bool := 0xD800 ≤ n && n ≤ 0xDBFF

/-- The second half of a surrogate pair. -/
def isLow (n : Nat) : Bool := 0xDC00 ≤ n && n ≤ 0xDFFF

/-- The character that a surrogate pair stands for. -/
def ofPair (high low : Nat) : Char :=
  Char.ofNat (0x10000 + (high - 0xD800) * 0x400 + (low - 0xDC00))

/-- The character of a short escape. -/
def shortEscape? (c : Char) : Option Char :=
  [('"', '"'), ('\\', '\\'), ('/', '/'), ('b', Char.ofNat 8), ('f', Char.ofNat 12), ('n', '\n'),
    ('r', '\r'), ('t', '\t')].lookup c

/-- The second half of a pair, escaped behind the first. -/
def readLow : List Char → Except Fault Nat
  | [] => .error .endInString
  | ['\\'] => .error .endInString
  | '\\' :: 'u' :: cs => do
    let n ← readHex cs
    if isLow n then return n else throw .loneSurrogate
  | _ :: _ => .error .brokenPair

/-- The character that the text behind a backslash stands for, and how many characters say so. -/
def readEscape : List Char → Except Fault (Char × Nat)
  | [] => .error .endInString
  | 'u' :: cs => do
    let n ← readHex cs
    if isLow n then throw .loneSurrogate
    else if isHigh n then return (ofPair n (← readLow (cs.drop 4)), 11)
    else return (Char.ofNat n, 5)
  | c :: _ =>
    match shortEscape? c with
    | some d => .ok (d, 1)
    | none => .error .badEscape

/-- A string, from behind its opening quote. -/
def readString (cs : List Char) : Except Fault (List Char × List Char) :=
  match cs with
  | [] => .error .endInString
  | c :: cs =>
    if c = '"' then .ok ([], cs)
    else if c = '\\' then do
      let (d, used) ← readEscape cs
      let (s, rest) ← readString (cs.drop used)
      return (d :: s, rest)
    else if c.toNat < 32 then .error .controlInString
    else do
      let (s, rest) ← readString cs
      return (c :: s, rest)
termination_by cs.length
decreasing_by all_goals simp; try omega

/-- How many characters an escape takes that does not matter: half a pair is as good as any. -/
def skipEscape : List Char → Except Fault Nat
  | [] => .error .endInString
  | 'u' :: cs => do
    let _ ← readHex cs
    return 5
  | c :: _ => if (shortEscape? c).isSome then .ok 1 else .error .badEscape

/-- The text behind a string that does not matter, from behind its opening quote. -/
def skipString (cs : List Char) : Except Fault (List Char) :=
  match cs with
  | [] => .error .endInString
  | c :: cs =>
    if c = '"' then .ok cs
    else if c = '\\' then do
      let used ← skipEscape cs
      skipString (cs.drop used)
    else if c.toNat < 32 then .error .controlInString
    else skipString cs
termination_by cs.length
decreasing_by all_goals simp; try omega

/-! ## Numbers -/

/-- A number as it is written: its sign, its digits before and behind the point, and the sign and
digits of its power of ten. -/
structure Literal where
  negative : Bool
  whole : List Char
  fraction : List Char
  exponent : Option (Bool × List Char)
  deriving Repr, DecidableEq

/-- The decimal digits in front of a text and what follows them; `ends` is the fault if the text is
at its end instead. -/
def readDigits (ends : Fault) (cs : List Char) : Except Fault (List Char × List Char) :=
  match cs with
  | [] => .error ends
  | c :: _ =>
    if isDigit 10 c then .ok (cs.takeWhile (isDigit 10), cs.dropWhile (isDigit 10))
    else .error .badNumber

/-- The digits before the point. A zero stands alone. -/
def readWhole (ends : Fault) (cs : List Char) : Except Fault (List Char × List Char) := do
  let (ds, rest) ← readDigits ends cs
  if ds.head? = some '0' ∧ 1 < ds.length then throw .badNumber
  return (ds, rest)

/-- The digits behind the point, if there is one. -/
def readFraction (ends : Fault) : List Char → Except Fault (List Char × List Char)
  | '.' :: cs => readDigits ends cs
  | cs => .ok ([], cs)

/-- The power of ten, if there is one. -/
def readExponent (ends : Fault) (cs : List Char) :
    Except Fault (Option (Bool × List Char) × List Char) :=
  match cs with
  | [] => .ok (none, [])
  | e :: rest =>
    if e = 'e' ∨ e = 'E' then do
      let negative := rest.head? == some '-'
      let rest := if negative || rest.head? == some '+' then rest.tail else rest
      let (ds, rest) ← readDigits ends rest
      return (some (negative, ds), rest)
    else .ok (none, cs)

/-- A number, from behind its minus sign if it has one. -/
def readLiteral (ends : Fault) (negative : Bool) (cs : List Char) :
    Except Fault (Literal × List Char) := do
  let (whole, cs) ← readWhole ends cs
  let (fraction, cs) ← readFraction ends cs
  let (exponent, cs) ← readExponent ends cs
  return (⟨negative, whole, fraction, exponent⟩, cs)

/-- A number that matters. -/
def readNumber (negative : Bool) (cs : List Char) : Except Fault (Literal × List Char) :=
  readLiteral .endInValue negative cs

/-- The text behind a number that does not matter. -/
def skipNumber (cs : List Char) : Except Fault (List Char) := do
  let (_, rest) ← readLiteral .badNumber false cs
  return rest

/-! ## Values that do not matter -/

mutual

/-- The text behind a value that does not matter. A reader's rest is always shorter than its text;
asking whether it is only serves to show that the reading ends. -/
def skipValue (cs : List Char) : Except Fault (List Char) :=
  match h : skipBlanks cs with
  | [] => .error .endInValue
  | c :: rest =>
    have : rest.length < cs.length := by
      have := (List.dropWhile_suffix isBlank (l := cs)).length_le
      rw [show cs.dropWhile isBlank = c :: rest from h, List.length_cons] at this
      omega
    skipFrom c rest
termination_by (cs.length, 0)

/-- The text behind a value, by the character in front of it. -/
def skipFrom (c : Char) (rest : List Char) : Except Fault (List Char) :=
  if c = 'n' then readWord "ull".toList rest
  else if c = 't' then readWord "rue".toList rest
  else if c = 'f' then readWord "alse".toList rest
  else if c = '"' then skipString rest
  else if c = '-' then skipNumber rest
  else if isDigit 10 c then skipNumber (c :: rest)
  else if c = '[' then
    match skipBlanks rest with
    | [] => .error .endInList
    | ']' :: rest => .ok rest
    | _ => skipItems rest
  else if c = '\x7b' then
    match skipBlanks rest with
    | '\x7d' :: rest => .ok rest
    | _ => skipMembers rest
  else .error .expectedValue
termination_by (rest.length, 2)

/-- The text behind the items of a list and its bracket. -/
def skipItems (cs : List Char) : Except Fault (List Char) := do
  let rest ← skipValue cs
  match skipBlanks rest with
  | [] => .error .endInList
  | ',' :: rest => if rest.length < cs.length then skipItems rest else .error .expectedListEnd
  | ']' :: rest => .ok rest
  | _ => .error .expectedListEnd
termination_by (cs.length, 1)

/-- The text behind the members of an object and its brace. -/
def skipMembers (cs : List Char) : Except Fault (List Char) :=
  match skipBlanks cs with
  | [] => .error .endInObject
  | '"' :: rest => do
    let rest ← skipString rest
    match skipBlanks rest with
    | [] => .error .endInObject
    | ':' :: rest =>
      if rest.length < cs.length then
        let rest ← skipValue rest
        match skipBlanks rest with
        | [] => .error .endInObject
        | ',' :: rest =>
          if rest.length < cs.length then skipMembers rest else .error .expectedObjectEnd
        | '\x7d' :: rest => .ok rest
        | _ => .error .expectedObjectEnd
      else .error .expectedColon
    | _ => .error .expectedColon
  | _ => .error .nameNotString
termination_by (cs.length, 1)

end

end BootEnv.Json
