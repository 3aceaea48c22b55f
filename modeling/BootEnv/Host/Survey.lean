import BootEnv.Host.Basic
import Std.Data.ExtTreeMap

/-!
# Surveying the host

Two views of a host that never fail: a failure is reported and counts as an empty answer.

* `Host.interfaceList`: the interfaces by name, each once, with all its addresses in host order.
* `Host.defaultInterface`: the interface of the first default route, the empty text if there is
  none.
-/

namespace BootEnv

/-- Addresses by interface name. -/
abbrev AddressMap := Std.ExtTreeMap String (List String)

/-- Adds the addresses of an interface behind those already known under its name. -/
def AddressMap.add (m : AddressMap) (i : Interface) : AddressMap :=
  m.insert i.name (m.getD i.name [] ++ i.addresses)

/-- One interface for each name, in the order of names. -/
def foldInterfaces (raw : List Interface) : List Interface :=
  (raw.foldl AddressMap.add ∅).toList.map fun p => ⟨p.1, p.2⟩

namespace Host

/-- The interfaces of a host in the order of their names, none when they cannot be listed. -/
def interfaceList (h : Host) : Reported (List Interface) :=
  match h.interfaces with
  | .ok raw => pure (foldInterfaces raw)
  | .error f => do
    Reported.report (.interfacesUnreadable f)
    return []

/-- The interface of a host's default route, or the empty text. -/
def defaultInterface (h : Host) : Reported String := do
  match ← h.routes with
  | .error f =>
    Reported.report (.routesUnreadable f)
    return ""
  | .ok routes =>
    match routes.find? (·.isDefault) with
    | some ⟨some name, _⟩ =>
      Reported.report (.defaultRouteVia name)
      return name
    | some ⟨none, _⟩ =>
      Reported.report .defaultRouteWithoutInterface
      return ""
    | none =>
      Reported.report .noDefaultRoute
      return ""

end Host

end BootEnv
