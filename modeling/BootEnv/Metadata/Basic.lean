import BootEnv.Address.Basic
import BootEnv.Token.Name

/-!
# Provider metadata

The addresses that a provider reports for the machine, one for each well-known token. Any of them
may be absent, and none is bound to the family in its name.
-/

namespace BootEnv

/-- The addresses that a provider reports. -/
structure Metadata where
  publicV4 : Option Address := none
  privateV4 : Option Address := none
  publicV6 : Option Address := none
  privateV6 : Option Address := none
  deriving Repr, DecidableEq

namespace Metadata

/-- Metadata without any address. -/
def empty : Metadata := {}

/-- The address behind a well-known token. -/
def get (m : Metadata) : WellKnown → Option Address
  | .publicV4 => m.publicV4
  | .privateV4 => m.privateV4
  | .publicV6 => m.publicV6
  | .privateV6 => m.privateV6

/-- The metadata with the given address for each well-known token. -/
def ofFunction (f : WellKnown → Option Address) : Metadata :=
  ⟨f .publicV4, f .privateV4, f .publicV6, f .privateV6⟩

@[simp] theorem get_ofFunction (f : WellKnown → Option Address) (w : WellKnown) :
    (ofFunction f).get w = f w := by
  cases w <;> rfl

@[simp] theorem ofFunction_get (m : Metadata) : ofFunction m.get = m := rfl

@[simp] theorem get_empty (w : WellKnown) : empty.get w = none := by cases w <;> rfl

end Metadata

end BootEnv
