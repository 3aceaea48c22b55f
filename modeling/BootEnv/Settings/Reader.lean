import BootEnv.FileTree
import BootEnv.Settings.Basic
import BootEnv.Yaml.Document
import BootEnv.Yaml.Kind

/-!
# Reading settings

Settings come as a YAML document: nothing, or a mapping from names of fields to scalars, whose text
is taken as it stands. Names are checked one by one as the document is read, so of two faults the
first is reported; a name that is not known or stands twice is a fault.

* `Settings.ofText`: the settings in a text.
* `Settings.load`: the settings in a file.
* `Settings.Fault.message`, `Settings.Fault.cause?`: what is shown of a fault.
-/

namespace BootEnv

namespace Settings

/-- What stands where something else is wanted. -/
inductive Found where
  | scalar (kind : Yaml.Kind)
  | list
  | map
  deriving Repr, DecidableEq

/-- How a message names what it found. -/
def Found.text : Found → String
  | scalar k => k.text
  | list => "sequence"
  | map => "map"

/-- What is wanted in a place. -/
inductive Wanted where
  | settings
  | name
  | value (field : Field)
  deriving Repr, DecidableEq

/-- How a message names what is wanted. -/
def Wanted.text : Wanted → String
  | settings => "struct Settings"
  | name => "field identifier"
  | value .keyName => "a string"
  | value _ => "path string"

/-- How a message names the place of a value. -/
inductive Place where
  /-- The value belongs to no name. -/
  | nowhere
  | field (f : Field)
  /-- The name stands elsewhere in the document. -/
  | unnamed
  deriving Repr, DecidableEq

/-- What a message starts with. -/
def Place.lead : Place → String
  | nowhere => ""
  | field f => f.name ++ ": "
  | unnamed => "?: "

/-- Why a document holds no settings. -/
inductive DocumentFault where
  /-- The text is no YAML document. -/
  | unreadable
  | unknownName (name : List Char)
  | repeatedName (field : Field)
  | wrongKind (place : Place) (found : Found) (wanted : Wanted)
  /-- A scalar that is not of the kind that its tag asks for. -/
  | wrongTag (text : List Char) (asked : Yaml.Kind.Wanted)
  deriving Repr, DecidableEq

/-- The names of all fields, as a message lists them. -/
def nameList : String := ", ".intercalate (Field.all.map fun f => "`" ++ f.name ++ "`")

/-- The text shown for a fault; there is none for a text that is no document. -/
def DocumentFault.text? : DocumentFault → Option String
  | unreadable => none
  | unknownName name =>
    some ("unknown field `" ++ String.ofList name ++ "`, expected one of " ++ nameList)
  | repeatedName f => some ("duplicate field `" ++ f.name ++ "`")
  | wrongKind place found wanted =>
    some (place.lead ++ "invalid type: " ++ found.text ++ ", expected " ++ wanted.text)
  | wrongTag text asked =>
    some ("invalid value: string " ++ Text.quoted (String.ofList text) ++ ", expected " ++
      asked.text)

/-- Texts by field, each at most once. -/
abbrev Fields := List (Field × String)

/-- The default settings with the given fields. -/
def ofFields (fields : Fields) : Settings := fields.foldl (fun s f => s.set f.1 f.2) default

/-- The field that a part of a document names. -/
def readName (d : Yaml.Document) (seen : Fields) (p : Yaml.Part) : Except DocumentFault Field :=
  match d.node? p with
  | some (.scalar _ s) =>
    match Field.ofName? s.text with
    | none => .error (.unknownName s.text)
    | some f => if (seen.lookup f).isSome then .error (.repeatedName f) else .ok f
  | some .list => .error (.wrongKind .nowhere .list .name)
  | some .map => .error (.wrongKind .nowhere .map .name)
  | none => .error .unreadable

/-- The text that a part of a document gives to a field. -/
def readValue (d : Yaml.Document) (place : Place) (f : Field) (p : Yaml.Part) :
    Except DocumentFault String :=
  match d.node? p with
  | some (.scalar _ s) => .ok (String.ofList s.text)
  | some .list => .error (.wrongKind place .list (.value f))
  | some .map => .error (.wrongKind place .map (.value f))
  | none => .error .unreadable

/-- The place of a value whose name is the given part. -/
def placeOf (f : Field) : Yaml.Part → Place
  | .alias _ => .unnamed
  | _ => .field f

/-- The fields of a mapping, added to those before. -/
def readEntries (d : Yaml.Document) (seen : Fields) : List Yaml.Part → Except DocumentFault Fields
  | [] => .error .unreadable
  | .close :: _ => .ok seen
  | [p] => do
    let _ ← readName d seen p
    .error .unreadable
  | p :: v :: rest => do
    let f ← readName d seen p
    let text ← readValue d (placeOf f p) f v
    readEntries d ((f, text) :: seen) rest

/-- The fields of a document, as far as it could be read. An empty scalar counts as none. -/
def readFields (d : Yaml.Document) : Except DocumentFault Fields :=
  match d.parts with
  | [] => .ok []
  | .node .map :: rest => readEntries d [] rest
  | .node .list :: _ => .error (.wrongKind .nowhere .list .settings)
  | .node (.scalar tag s) :: _ =>
    if s.text.isEmpty then .ok []
    else
      match Yaml.Kind.ofScalar tag s with
      | .ok k => .error (.wrongKind .nowhere (.scalar k) .settings)
      | .error asked => .error (.wrongTag s.text asked)
  | _ => .error .unreadable

/-- The settings of a document. -/
def ofDocument (d : Yaml.Document) : Except DocumentFault Settings := do
  let fields ← readFields d
  if d.isComplete then return ofFields fields else throw .unreadable

/-- Why settings cannot be had. -/
inductive Fault where
  /-- The file at a path cannot be read. -/
  | unread (path : Path) (fault : BootEnv.Fault)
  /-- A text, from a file or not, holds no settings. -/
  | invalid (path? : Option Path) (fault : DocumentFault)
  deriving Repr, DecidableEq

namespace Fault

/-- What was done when the fault occurred. -/
def message : Fault → String
  | unread p _ => "reading settings from " ++ p.text
  | invalid none _ => "invalid settings document"
  | invalid (some p) _ => "parsing " ++ p.text ++ ": invalid settings document"

/-- What went wrong, if there is something to say. -/
def cause? : Fault → Option String
  | unread _ f => some f.text
  | invalid _ f => f.text?

end Fault

/-- The settings in a text that comes from the given path, if from any. -/
def ofTextAt (path? : Option Path) (text : String) : Except Fault Settings :=
  (ofDocument (Yaml.Document.ofText text.toList)).mapError (.invalid path?)

/-- The settings in a text. -/
def ofText (text : String) : Except Fault Settings := ofTextAt none text

/-- The settings in a file. -/
def load (files : FileTree) (path : Path) : Except Fault Settings :=
  match files.read path with
  | .ok text => ofTextAt (some path) text
  | .error f => .error (.unread path f)

end Settings

end BootEnv
