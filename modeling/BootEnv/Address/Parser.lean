import BootEnv.Address.Basic
import BootEnv.Numeral

/-!
# Reading addresses

IPv4 is four decimal octets between dots, none with a leading zero. IPv6 is groups of one to four
hexadecimal digits between colons; once, `::` stands for one or more zero groups, and the last two
groups may be written as an IPv4 address. Nothing may follow.

A reader takes what it can from the front of a text and returns it with the rest.
-/

namespace BootEnv

/-- The rest behind the given character. -/
def expect? (c : Char) : List Char → Option (List Char)
  | [] => none
  | x :: xs => if x = c then some xs else none

namespace V4

/-- An octet: the longest run of decimal digits, at most three, without a leading zero. -/
def readOctet? (cs : List Char) : Option (UInt8 × List Char) :=
  let digits := cs.takeWhile (isDigit 10)
  if digits.isEmpty || 3 < digits.length || (1 < digits.length && digits.head? == some '0') then
    none
  else
    ((Numeral.value? 10 digits).filter (· < 256)).map fun n =>
      (UInt8.ofNat n, cs.dropWhile (isDigit 10))

/-- Four octets between dots. -/
def read? (cs : List Char) : Option (V4 × List Char) := do
  let (a, cs) ← readOctet? cs
  let cs ← expect? '.' cs
  let (b, cs) ← readOctet? cs
  let cs ← expect? '.' cs
  let (c, cs) ← readOctet? cs
  let cs ← expect? '.' cs
  let (d, cs) ← readOctet? cs
  return (⟨a, b, c, d⟩, cs)

end V4

namespace V6

/-- A group: the longest run of hexadecimal digits, at most four. -/
def readGroup? (cs : List Char) : Option (UInt16 × List Char) :=
  let digits := cs.takeWhile (isDigit 16)
  if digits.isEmpty || 4 < digits.length then none
  else (Numeral.value? 16 digits).map fun n => (UInt16.ofNat n, cs.dropWhile (isDigit 16))

/-- What stands behind the colon that separates two groups; the first group has none. -/
def afterColon? (isFirst : Bool) (cs : List Char) : Option (List Char) :=
  if isFirst then some cs else expect? ':' cs

/-- As many groups as there are, at most `room`, whether they end in an IPv4 address, and the
rest. An IPv4 address needs room for two groups and ends the run. -/
def readGroups : Nat → Bool → List Char → List UInt16 × Bool × List Char
  | 0, _, cs => ([], false, cs)
  | room + 1, isFirst, cs =>
    match afterColon? isFirst cs with
    | none => ([], false, cs)
    | some body =>
      match if 0 < room then V4.read? body else none with
      | some (v, rest) => (v.groups, true, rest)
      | none =>
        match readGroup? body with
        | some (g, rest) =>
          let (gs, closed, rest) := readGroups room false rest
          (g :: gs, closed, rest)
        | none => ([], false, cs)

/-- Eight groups, or fewer with `::` in place of the missing zeros. -/
def read? (cs : List Char) : Option (V6 × List Char) :=
  let (head, closed, rest) := readGroups 8 true cs
  if head.length = 8 then (ofGroups? head).map (·, rest)
  else if closed then none
  else do
    let rest ← expect? ':' rest
    let rest ← expect? ':' rest
    let (tail, _, rest) := readGroups (7 - head.length) true rest
    let zeros := List.replicate (8 - head.length - tail.length) 0
    return (← ofGroups? (head ++ zeros ++ tail), rest)

end V6

/-- The address that a whole text writes. -/
def Address.parse? (cs : List Char) : Option Address :=
  match V4.read? cs with
  | some (v, rest) => if rest.isEmpty then some (.v4 v) else none
  | none =>
    match V6.read? cs with
    | some (v, rest) => if rest.isEmpty then some (.v6 v) else none
    | none => none

end BootEnv
