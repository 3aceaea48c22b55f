import BootEnv.Report.Reported

/-!
# The host

What is asked of the machine: its network interfaces with their addresses, and its routes. Either
question may fail, and reading the routes may report what it skips.
-/

namespace BootEnv

/-- A network interface and its addresses in the form `address/bits`, in host order. -/
structure Interface where
  name : String
  addresses : List String
  deriving Repr, DecidableEq

/-- A route; one without an outgoing device names no interface. -/
structure Route where
  interface? : Option String
  isDefault : Bool
  deriving Repr, DecidableEq

/-- The answers of a host to the two questions. -/
structure Host where
  interfaces : Except Fault (List Interface)
  routes : Reported (Except Fault (List Route))

end BootEnv
