import BootEnv.Address.Basic
import BootEnv.Numeral

/-!
# Writing addresses

Each address has one canonical text. IPv4 is dotted decimal. An IPv4-mapped address is written
`::ffff:a.b.c.d`; any other IPv6 address in lower-case groups without leading zeros, its longest run
of two or more zero groups, the first of several, written `::`.

* `longestZeros`: where that run starts and how long it is.
* `Address.print`: the canonical text.
-/

namespace BootEnv

/-- Dotted decimal. -/
def V4.print (v : V4) : List Char :=
  decimal v.a.toNat ++ '.' :: decimal v.b.toNat ++ '.' :: decimal v.c.toNat ++
    '.' :: decimal v.d.toNat

namespace V6

/-- The number of zero groups in front. -/
def leadingZeros (groups : List UInt16) : Nat := (groups.takeWhile (· == 0)).length

/-- Start and length of the longest run of zero groups, the first of several. -/
def longestZeros : List UInt16 → Nat × Nat
  | [] => (0, 0)
  | g :: gs =>
    let (start, length) := longestZeros gs
    let here := leadingZeros (g :: gs)
    if length ≤ here then (0, here) else (start + 1, length)

/-- Groups between colons. -/
def printGroups : List UInt16 → List Char
  | [] => []
  | [g] => Nat.toDigits 16 g.toNat
  | g :: gs => Nat.toDigits 16 g.toNat ++ ':' :: printGroups gs

/-- The canonical text of an IPv6 address. -/
def print (v : V6) : List Char :=
  match v.mapped? with
  | some w => "::ffff:".toList ++ w.print
  | none =>
    let (start, length) := longestZeros v.groups
    if length < 2 then printGroups v.groups
    else
      printGroups (v.groups.take start) ++ ':' :: ':' ::
        printGroups (v.groups.drop (start + length))

end V6

/-- The canonical text of an address. -/
def Address.print : Address → List Char
  | v4 v => v.print
  | v6 v => v.print

end BootEnv
