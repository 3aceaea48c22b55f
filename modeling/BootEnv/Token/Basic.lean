import Std.Data.ExtTreeMap

/-!
# Token tables

A token is a spelling such as `$public_ipv4` that stands for a value; the value is exported under a
variable name. A table maps tokens to entries and lists them in the order of code points.

* `fill`: a map filled row by row.
* `Table.ofRows`: the table of some rows.
-/

namespace BootEnv

/-- What a token stands for, and the name under which that is exported. -/
structure Entry where
  name : String
  value : String
  deriving Repr, DecidableEq

/-- The map of the given rows; a later row replaces an earlier one with the same key. -/
def fill {β : Type} (rows : List (String × β)) : Std.ExtTreeMap String β :=
  rows.foldl (fun t r => t.insert r.1 r.2) ∅

/-- Entries by token. Two tables with the same entries are equal. -/
abbrev Table := Std.ExtTreeMap String Entry

/-- The table of the given rows. -/
def Table.ofRows (rows : List (String × Entry)) : Table := fill rows

end BootEnv
