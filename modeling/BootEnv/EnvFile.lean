import BootEnv.Path
import BootEnv.Text.Quoted
import BootEnv.Token.Basic

/-!
# Environment files

A file of lines `NAME=value`, one for each variable, in the order of names. A name is made of
ASCII letters, digits and underscores; a value has no character that could end its line.

* `EnvFile.ofTable?`: the file of a table: a variable for each entry whose value is not empty, none
  at all when there is no such entry.
* `EnvFile.render`: the content of the file.
* `EnvFile.merge`: an existing content brought up to date: lines that assign a variable of the file
  are rewritten where they stand, other lines are kept, missing variables are added at the end.
* `Assignment.all`: what a content assigns, in the order of its lines.
-/

namespace BootEnv

/-- Variables by name. -/
abbrev Variables := Std.ExtTreeMap String String

/-- The variables to be written to a path. -/
structure EnvFile where
  path : Path
  vars : Variables

/-- Where environment files go. -/
def environmentPath : Path := ⟨"/etc/environment"⟩

/-- A character that a variable name may have. -/
def isNameChar (c : Char) : Bool :=
  ('A' ≤ c && c ≤ 'Z') || ('a' ≤ c && c ≤ 'z') || ('0' ≤ c && c ≤ '9') || c == '_'

/-- A variable name that can be written. -/
def isName (cs : List Char) : Bool := !cs.isEmpty && cs.all isNameChar

/-- A value that fits on a line. -/
def isValue (cs : List Char) : Bool :=
  !(cs.contains '\n' || cs.contains '\r' || cs.contains '\x00')

/-- A line of the form `name=value`, cut at its first equals sign. -/
structure Assignment where
  name : List Char
  value : List Char
  deriving Repr, DecidableEq

namespace Assignment

/-- The assignment that a line makes, if what stands before the first equals sign is a name. -/
def ofLine? (line : List Char) : Option Assignment :=
  match Text.cutAt? '=' line with
  | some (name, value) => if isName name then some ⟨name, value⟩ else none
  | none => none

/-- The line of an assignment. -/
def toLine (a : Assignment) : List Char := a.name ++ '=' :: a.value

/-- The assignments of a content, line by line. -/
def all (content : List Char) : List Assignment := (Text.lines content).filterMap ofLine?

end Assignment

namespace EnvFile

/-- Why a file cannot be written. -/
inductive Refusal where
  /-- A variable has a name that cannot be written. -/
  | badName (name : String)
  /-- The variable of this name has a value that does not fit on a line. -/
  | badValue (name : String)
  deriving Repr, DecidableEq

/-- The text shown for a refusal. -/
def Refusal.text : Refusal → String
  | badName name => "invalid environment variable name " ++ Text.quoted name
  | badValue name => "value of " ++ name ++ " contains a newline or NUL"

/-- What is wrong with one variable. A bad name comes before a bad value. -/
def refusal? (name value : String) : Option Refusal :=
  if !isName name.toList then some (.badName name)
  else if !isValue value.toList then some (.badValue name)
  else none

/-- Refuses the file for the first variable, in the order of names, that cannot be written. -/
def check (e : EnvFile) : Except Refusal Unit :=
  match e.vars.toList.findSome? fun v => refusal? v.1 v.2 with
  | some r => .error r
  | none => .ok ()

/-- The variables of the entries of a table whose value is not empty. Of several entries for one
variable the one with the greatest token counts. -/
def variablesOf (t : Table) : Variables :=
  ((t.toList.map Prod.snd).filter fun e => e.value ≠ "").foldl
    (fun vars e => vars.insert e.name e.value) ∅

/-- The environment file of a table, unless all its values are empty. -/
def ofTable? (t : Table) : Option EnvFile :=
  if (variablesOf t).isEmpty then none else some ⟨environmentPath, variablesOf t⟩

/-- Where the file goes below a root. -/
def pathUnder (e : EnvFile) (root : Path) : Path := root.under e.path

/-- The line that assigns a variable. -/
def lineOf (v : String × String) : List Char := Assignment.toLine ⟨v.1.toList, v.2.toList⟩

/-- Lines, each ended by a newline. -/
def unlines (lines : List (List Char)) : List Char := lines.flatMap (· ++ ['\n'])

/-- The content of the file. -/
def render (e : EnvFile) : Except Refusal String := do
  e.check
  return String.ofList (unlines (e.vars.toList.map lineOf))

/-- The variable of the file that a line assigns. -/
def assigned? (e : EnvFile) (line : List Char) : Option (String × String) := do
  let a ← Assignment.ofLine? line
  let name := String.ofList a.name
  let value ← e.vars[name]?
  return (name, value)

/-- A line brought up to date. -/
def updateLine (e : EnvFile) (line : List Char) : List Char :=
  match e.assigned? line with
  | some v => lineOf v
  | none => line

/-- The variables of the file that no line assigns, in the order of names. -/
def unassigned (e : EnvFile) (lines : List (List Char)) : List (String × String) :=
  e.vars.toList.filter fun v => !(lines.filterMap e.assigned?).any (·.1 == v.1)

/-- An existing content brought up to date. -/
def merge (e : EnvFile) (existing : String) : Except Refusal String := do
  e.check
  let lines := Text.lines existing.toList
  return String.ofList (unlines (lines.map e.updateLine ++ (e.unassigned lines).map lineOf))

end EnvFile

end BootEnv
