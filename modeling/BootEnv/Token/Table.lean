import BootEnv.Cidr
import BootEnv.Host.Survey
import BootEnv.Lookup
import BootEnv.Metadata.Basic
import BootEnv.Token.Basic

/-!
# Building the token table

A well-known token takes its value from the metadata, else from the environment, else it is empty.
Each interface, in the order of names, adds a token for every address that can be read: an
IPv4-mapped address counts as IPv4, the addresses of each family are numbered from zero in host
order, and one that cannot be read takes no number. The IPv4 addresses of the default route's
interface also set the default token, so the last of them stays.

* `Interface.readings`: what becomes of each address of an interface.
* `Interface.rows`, `Interface.events`: the entries and the reports of an interface.
* `Table.build`: the table, with everything reported on the way.
* `value_build`: **the table's rows in the order in which they are entered**.
-/

namespace BootEnv

/-- What becomes of an interface address. -/
inductive Reading where
  /-- It cannot be read. -/
  | unreadable (text : String)
  /-- It is the address with the given number in its family. -/
  | found (address : Address) (number : Nat)
  deriving Repr, DecidableEq

namespace Interface

/-- The address that a text of the form `address/bits` gives, IPv4-mapped ones turned into IPv4. -/
def addressOf? (text : String) : Option Address :=
  (Cidr.parse? text).map fun c => c.address.unmapped

/-- Readings of further addresses, when `seen` counts those already found in each family. -/
def readingsFrom (seen : Family → Nat) : List String → List Reading
  | [] => []
  | text :: rest =>
    match addressOf? text with
    | none => .unreadable text :: readingsFrom seen rest
    | some a =>
      .found a (seen a.family) ::
        readingsFrom (fun f => if f = a.family then seen f + 1 else seen f) rest

/-- What becomes of each address of an interface. -/
def readings (i : Interface) : List Reading := readingsFrom (fun _ => 0) i.addresses

/-- The readable addresses of one family, in host order. -/
def addressesOf (i : Interface) (f : Family) : List Address :=
  (i.addresses.filterMap addressOf?).filter (·.family = f)

/-- The entry of the `n`-th address of a family. -/
def row (i : Interface) (a : Address) (n : Nat) : String × Entry :=
  (String.ofList (addressToken i.name.toList a.family n),
    ⟨String.ofList (addressVariable i.name.toList a.family n), String.ofList a.print⟩)

/-- The entry of an address as that of the default route's interface. -/
def defaultRow (a : Address) : String × Entry :=
  (defaultToken, ⟨defaultVariable, String.ofList a.print⟩)

/-- The entries that an interface adds, when `default` is the default route's interface. -/
def rows (default : String) (i : Interface) : List (String × Entry) :=
  i.readings.flatMap fun
    | .unreadable _ => []
    | .found a n =>
      i.row a n ::
        if a.family = .v4 ∧ default ≠ "" ∧ i.name = default then [defaultRow a] else []

/-- What is reported of the addresses of an interface. -/
def events (i : Interface) : List Event :=
  i.readings.map fun
    | .unreadable text => .addressUnreadable text i.name
    | .found a _ => .addressFound i.name (String.ofList a.print)

end Interface

namespace WellKnown

/-- The value of a well-known token. -/
def value (m : Metadata) (lookup : Lookup) (w : WellKnown) : String :=
  match m.get w with
  | some a => String.ofList a.print
  | none => (lookup w.variableName).getD ""

/-- The entry of a well-known token. -/
def row (m : Metadata) (lookup : Lookup) (w : WellKnown) : String × Entry :=
  (w.token, ⟨w.variableName, w.value m lookup⟩)

end WellKnown

namespace Table

/-- The table of a host, from metadata and an environment. -/
def build (m : Metadata) (h : Host) (lookup : Lookup) : Reported Table := do
  let default ← h.defaultInterface
  let interfaces ← h.interfaceList
  if !interfaces.isEmpty then Reported.report .surveyStarted
  Reported.reportAll (interfaces.flatMap Interface.events)
  return ofRows (WellKnown.all.map (WellKnown.row m lookup) ++
    interfaces.flatMap (Interface.rows default))

/-- The table holds the well-known rows, then those of the interfaces by name. -/
theorem value_build (m : Metadata) (h : Host) (lookup : Lookup) :
    (build m h lookup).value = ofRows (WellKnown.all.map (WellKnown.row m lookup) ++
      h.interfaceList.value.flatMap (Interface.rows h.defaultInterface.value)) := by
  simp only [build, Reported.value_bind]
  split <;> rfl

end Table

end BootEnv
