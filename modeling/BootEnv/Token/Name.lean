import BootEnv.Address.Basic
import BootEnv.Numeral
import BootEnv.Text.Case

/-!
# Names of tokens and variables

Four tokens are always there, each backed by a variable of the environment. An interface address has
a variable named after its interface, its family and its number, and a token that is the variable in
lower case behind a dollar sign.

* `WellKnown`: the four tokens that every table has.
* `stem`: an interface name in upper case, with underscores for dots.
* `addressVariable`, `addressToken`: the names of the `n`-th address of a family.
-/

namespace BootEnv

/-- The tokens that every table has. -/
inductive WellKnown where
  | publicV4
  | privateV4
  | publicV6
  | privateV6
  deriving Repr, DecidableEq

namespace WellKnown

/-- All well-known tokens, in their order. -/
def all : List WellKnown := [publicV4, privateV4, publicV6, privateV6]

theorem mem_all (w : WellKnown) : w ∈ all := by
  cases w <;> decide

/-- The spelling of a well-known token. -/
def token : WellKnown → String
  | publicV4 => "$public_ipv4"
  | privateV4 => "$private_ipv4"
  | publicV6 => "$public_ipv6"
  | privateV6 => "$private_ipv6"

/-- The variable that backs a well-known token. -/
def variableName : WellKnown → String
  | publicV4 => "COREOS_PUBLIC_IPV4"
  | privateV4 => "COREOS_PRIVATE_IPV4"
  | publicV6 => "COREOS_PUBLIC_IPV6"
  | privateV6 => "COREOS_PRIVATE_IPV6"

end WellKnown

/-- The token for the IPv4 address of the default route's interface. -/
def defaultToken : String := "$iface_default_ipv4"

/-- The variable that goes with `defaultToken`. -/
def defaultVariable : String := "IFACE_DEFAULT_IPV4"

/-- How a variable names a family. -/
def Family.label : Family → List Char
  | v4 => "IPV4".toList
  | v6 => "IPV6".toList

/-- An interface name as variables spell it. -/
def stem (interface : List Char) : List Char :=
  (Text.upper interface).map fun c => if c = '.' then '_' else c

/-- What tells the `n`-th address of a family from its first. -/
def numberSuffix (n : Nat) : List Char := if n = 0 then [] else '_' :: decimal n

/-- The variable of the `n`-th address of a family. -/
def addressVariable (interface : List Char) (f : Family) (n : Nat) : List Char :=
  "IFACE_".toList ++ stem interface ++ '_' :: f.label ++ numberSuffix n

/-- The token of the `n`-th address of a family. -/
def addressToken (interface : List Char) (f : Family) (n : Nat) : List Char :=
  '$' :: Text.lower (addressVariable interface f n)

end BootEnv
