import BootEnv.EnvFile
import BootEnv.Token.Substitution
import BootEnv.Token.Table

/-!
# Environments

What a run substitutes and where it works: the token table, the root with the paths seen from it,
and the name of the key. The table is fixed when the environment is built; the name of the key is
the one thing that a later step may set.

* `Environment.build`: the environment of a host.
* `Environment.workspace`: the workspace below the root, also when it is given as an absolute path.
* `Environment.apply`: a text with the tokens replaced.
* `Environment.envFile?`: the environment file of the table.
-/

namespace BootEnv

/-- The key name unless another is given. -/
def defaultKeyName : String := "coreos-cloudinit"

/-- The paths of a run, its key name and its token table. -/
structure Environment where
  root : Path
  configRoot : Path
  workspacePath : Path
  keyName : String
  table : Table

namespace Environment

/-- The environment of a host, from metadata and the variables of the process. -/
def build (root configRoot workspacePath : Path) (keyName : String) (m : Metadata) (h : Host)
    (lookup : Lookup) : Reported Environment := do
  let table ← Table.build m h lookup
  return ⟨root, configRoot, workspacePath, keyName, table⟩

/-- The workspace below the root. -/
def workspace (e : Environment) : Path := e.root.under e.workspacePath

/-- The environment with another key name. -/
def setKeyName (e : Environment) (name : String) : Environment := { e with keyName := name }

/-- The entry of a token. -/
def lookup? (e : Environment) (token : String) : Option Entry := e.table[token]?

/-- The substitution of the table. -/
def substitution (e : Environment) : Substitution := Substitution.ofTable e.table

/-- A text with the tokens replaced. -/
def apply (e : Environment) (text : String) : String := e.substitution.apply text

/-- The environment file of the table. -/
def envFile? (e : Environment) : Option EnvFile := EnvFile.ofTable? e.table

end Environment

end BootEnv
