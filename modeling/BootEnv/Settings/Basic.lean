import BootEnv.Environment
import BootEnv.Host.RouteTable
import BootEnv.Text.Blank

/-!
# Settings

Where a run works and what it reads: five fields, each with a default and with a variable of the
process that overrides it. A variable that is unset or blank overrides nothing; any other value is
taken as it is.

* `Settings.get`, `Settings.set`: the fields by name.
* `Settings.override`: the settings under the variables of a process.
* `get_override`: **each field depends on its own variable only**.
-/

namespace BootEnv

/-- The fields of the settings. -/
inductive Field where
  | root
  | configRoot
  | workspace
  | keyName
  | routeTable
  deriving Repr, DecidableEq

namespace Field

/-- All fields, in their order. -/
def all : List Field := [root, configRoot, workspace, keyName, routeTable]

/-- The name of a field in a document. -/
def name : Field → String
  | root => "root"
  | configRoot => "config_root"
  | workspace => "workspace"
  | keyName => "ssh_key_name"
  | routeTable => "route_table"

/-- The variable that overrides a field. -/
def variableName : Field → String
  | root => "CLOUDINIT_ENV_ROOT"
  | configRoot => "CLOUDINIT_ENV_CONFIG_ROOT"
  | workspace => "CLOUDINIT_ENV_WORKSPACE"
  | keyName => "CLOUDINIT_ENV_SSH_KEY_NAME"
  | routeTable => "CLOUDINIT_ENV_ROUTE_TABLE"

/-- The field with the given name. -/
def ofName? (name : List Char) : Option Field := all.find? fun f => f.name.toList = name

/-- What the variables of a process say about a field. -/
def override? (lookup : Lookup) (f : Field) : Option String :=
  (lookup f.variableName).filter fun v => !Text.isBlankText v

end Field

/-- The workspace unless another is given. -/
def defaultWorkspace : String := "var/lib/coreos-cloudinit"

/-- The settings of a run. -/
structure Settings where
  root : Path := ⟨"/"⟩
  configRoot : Path := ⟨""⟩
  workspace : Path := ⟨defaultWorkspace⟩
  keyName : String := defaultKeyName
  routeTable : Path := ⟨defaultRouteTable⟩
  deriving Repr, DecidableEq

namespace Settings

/-- The settings without a document. -/
def default : Settings := {}

/-- The text of a field. -/
def get (s : Settings) : Field → String
  | .root => s.root.text
  | .configRoot => s.configRoot.text
  | .workspace => s.workspace.text
  | .keyName => s.keyName
  | .routeTable => s.routeTable.text

/-- The settings with another text in a field. -/
def set (s : Settings) (f : Field) (text : String) : Settings :=
  match f with
  | .root => { s with root := ⟨text⟩ }
  | .configRoot => { s with configRoot := ⟨text⟩ }
  | .workspace => { s with workspace := ⟨text⟩ }
  | .keyName => { s with keyName := text }
  | .routeTable => { s with routeTable := ⟨text⟩ }

/-- The settings say the same, when paths are compared by what they name. -/
def same (s t : Settings) : Bool :=
  s.root.same t.root && s.configRoot.same t.configRoot && s.workspace.same t.workspace &&
    s.keyName == t.keyName && s.routeTable.same t.routeTable

/-- One field under the variables of a process. -/
def overrideField (lookup : Lookup) (s : Settings) (f : Field) : Settings :=
  match f.override? lookup with
  | some text => s.set f text
  | none => s

/-- The settings under the variables of a process. -/
def override (s : Settings) (lookup : Lookup) : Settings :=
  Field.all.foldl (overrideField lookup) s

theorem get_set (s : Settings) (f g : Field) (text : String) :
    (s.set f text).get g = if g = f then text else s.get g := by
  cases f <;> cases g <;> rfl

end Settings

/-- The environment of a host under the given settings. -/
def Environment.ofSettings (s : Settings) (m : Metadata) (h : Host) (lookup : Lookup) :
    Reported Environment :=
  build s.root s.configRoot s.workspace s.keyName m h lookup

end BootEnv
