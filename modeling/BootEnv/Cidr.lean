import BootEnv.Address.Parser
import BootEnv.Address.Printer
import BootEnv.Text.Segment

/-!
# Addresses with a network size

An interface address is written `address/bits`, where `bits`, the size of its network part, is at
most the width of the address.

* `Cidr.parse?`: reads one; the text is cut at its first slash.
* `Cidr.print`: its canonical text.
-/

namespace BootEnv

/-- An address and the number of its bits that name the network. -/
structure Cidr where
  address : Address
  bits : Nat
  bits_le : bits ≤ address.width
  deriving DecidableEq

namespace Cidr

/-- The address and network size that a text writes. -/
def parse? (text : String) : Option Cidr := do
  let (front, back) ← Text.cutAt? '/' text.toList
  let address ← Address.parse? front
  let bits ← Numeral.parse? 10 back
  if h : bits ≤ address.width then some ⟨address, bits, h⟩ else none

/-- The canonical text. -/
def print (c : Cidr) : String :=
  String.ofList (c.address.print ++ '/' :: decimal c.bits)

end Cidr

end BootEnv
