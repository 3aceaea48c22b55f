import BootEnv.Numeral
import BootEnv.Yaml.Token.Basic

/-!
# Anchors, tags and directives

Names that are given to nodes and to parts of tags.

* `readAnchor?`: the name of an anchor or an alias.
* `readTag?`: a tag, as a handle with a rest, or written out between angle brackets.
* `readDirective?`: a line that says which version is meant or what a handle stands for.
-/

namespace BootEnv.Yaml

/-- The name in front of a text and what follows it. -/
def readWord (cs : List Char) : List Char × List Char :=
  (cs.takeWhile isWordChar, cs.dropWhile isWordChar)

/-- A sign that may follow a name at once. -/
def isNameEnd (c : Char) : Bool := ['?', ':', ',', ']', '\x7d', '%', '@', '\x60'].contains c

/-- The name of an anchor or an alias, from behind its sign. -/
def readAnchor? (cs : List Char) : Option (List Char × List Char) :=
  let (name, rest) := readWord cs
  if name.isEmpty then none
  else if endsWord rest || rest.head?.any isNameEnd then some (name, rest)
  else none

/-! ## Tags -/

/-- A character that a tag may hold. -/
def isTagChar (c : Char) : Bool := isWordChar c || ";/?:@&=+$.%!~*'()".toList.contains c

/-- A character that a tag may hold when it is written out. -/
def isUriChar (c : Char) : Bool := isTagChar c || c == ',' || c == '[' || c == ']'

/-- The value of an octet that is written in two digits behind a percent sign. -/
def readOctet? (cs : List Char) : Option Nat :=
  if cs.head? = some '%' ∧ 3 ≤ cs.length then Numeral.value? 16 (cs.tail.take 2) else none

/-- The length of an encoded character by its first octet. -/
def encodedLength? (octet : Nat) : Option Nat :=
  if octet < 0x80 then some 1
  else if octet < 0xC0 then none
  else if octet < 0xE0 then some 2
  else if octet < 0xF0 then some 3
  else if octet < 0xF8 then some 4
  else none

/-- The octets behind the first one of an encoded character. -/
def readOctets? : Nat → List Char → Option (List Char)
  | 0, _ => some []
  | n + 1, cs => do
    let octet ← readOctet? cs
    if octet / 0x40 = 2 then return Char.ofNat octet :: (← readOctets? n (cs.drop 3)) else none

/-- A character in the form of its octets. -/
def readEncoded? (cs : List Char) : Option (List Char) := do
  let octet ← readOctet? cs
  let length ← encodedLength? octet
  return Char.ofNat octet :: (← readOctets? (length - 1) (cs.drop 3))

/-- The part of a tag in front of a text, octets decoded, and what follows it. -/
def readTagPart? (isPart : Char → Bool) (cs : List Char) : Option (List Char × List Char) :=
  match cs with
  | [] => some ([], [])
  | c :: cs =>
    if c = '%' then
      match readEncoded? (c :: cs) with
      | none => none
      | some octets =>
        (readTagPart? isPart (cs.drop (3 * octets.length - 1))).map fun r => (octets ++ r.1, r.2)
    else if isPart c then (readTagPart? isPart cs).map fun r => (c :: r.1, r.2)
    else some ([], c :: cs)
termination_by cs.length
decreasing_by all_goals simp; try omega

/-- A tag handle and what follows it: an exclamation mark, a name, and perhaps another mark. -/
def readHandle? : List Char → Option (List Char × List Char)
  | '!' :: cs =>
    let (name, rest) := readWord cs
    match rest with
    | '!' :: rest => some ('!' :: name ++ ['!'], rest)
    | _ => some ('!' :: name, rest)
  | _ => none

/-- A handle with a mark at both ends. -/
def isClosedHandle (handle : List Char) : Bool := 2 ≤ handle.length && handle.getLast? == some '!'

/-- A tag written out, from behind its angle bracket. -/
def readVerbatim? (cs : List Char) : Option (Token × List Char) := do
  let (uri, rest) ← readTagPart? isUriChar cs
  if uri.isEmpty ∨ rest.head? ≠ some '>' then none else some (.tag [] uri, rest.tail)

/-- A tag with a handle. The mark alone is a tag of its own. -/
def readShort? (cs : List Char) : Option (Token × List Char) := do
  let (handle, rest) ← readHandle? cs
  let (part, rest) ← readTagPart? isTagChar rest
  if isClosedHandle handle then
    if part.isEmpty then none else return (.tag handle part, rest)
  else if (handle.tail ++ part).isEmpty then return (.tag [] ['!'], rest)
  else return (.tag ['!'] (handle.tail ++ part), rest)

/-- A tag and what follows it. -/
def readTag? (inFlow : Bool) (cs : List Char) : Option (Token × List Char) := do
  let (t, rest) ← match cs with
    | '!' :: '<' :: cs => readVerbatim? cs
    | _ => readShort? cs
  if endsWord rest || (inFlow && rest.head? == some ',') then some (t, rest) else none

/-! ## Directives -/

/-- A number of a version, of at most nine digits. -/
def readVersionPart? (cs : List Char) : Option (Nat × List Char) := do
  let digits := cs.takeWhile (isDigit 10)
  if digits.isEmpty ∨ 9 < digits.length then none
  else return (← Numeral.value? 10 digits, cs.drop digits.length)

/-- The version that a directive gives. -/
def readVersion? (cs : List Char) : Option (Token × List Char) := do
  let (major, rest) ← readVersionPart? (cs.dropWhile isBlank)
  if rest.head? ≠ some '.' then none
  else
    let (minor, rest) ← readVersionPart? rest.tail
    return (.version major minor, rest)

/-- The handle that a directive explains. -/
def readHandleRule? (cs : List Char) : Option (Token × List Char) := do
  let (handle, rest) ← readHandle? (cs.dropWhile isBlank)
  if !(isClosedHandle handle || handle == ['!']) || !rest.head?.any isBlank then none
  else
    let (stem, rest) ← readTagPart? isUriChar (rest.dropWhile isBlank)
    if stem.isEmpty || !endsWord rest then none else return (.handle handle stem, rest)

/-- A directive, from behind its percent sign, and the lines that follow it. -/
def readDirective? (cs : List Char) : Option (Token × List Char) := do
  let (name, rest) := readWord cs
  if !endsWord rest then none
  else
    let (t, rest) ←
      if name = "YAML".toList then readVersion? rest
      else if name = "TAG".toList then readHandleRule? rest
      else none
    return (t, ← lineRest? rest)

end BootEnv.Yaml
