import BootEnv.Host.Fault
import BootEnv.Path

/-!
# Files

The files that a run can read, by their place below the working directory. A directory exists if it
was made or if something lies in it. Nothing is known of files elsewhere: they count as missing.

* `FileTree.resolve`: where a path leads, name by name; every name but the last needs a directory,
  and so does a slash behind the last one.
* `FileTree.read`: the text of a file, or why it cannot be read.
-/

namespace BootEnv

/-- What lies at a place. -/
inductive Content where
  | file (bytes : ByteArray)
  | directory

/-- The files and directories below the working directory, each by the names that lead to it. -/
structure FileTree where
  items : List (List (List Char) × Content)

namespace FileTree

/-- No files at all. -/
def empty : FileTree := ⟨[]⟩

/-- One more file or directory, by its path. -/
def add (t : FileTree) (p : Path) (c : Content) : FileTree := ⟨(p.names, c) :: t.items⟩

/-- What lies at a place, the working directory being the empty list of names. -/
def content? (t : FileTree) (place : List (List Char)) : Option Content :=
  match t.items.lookup place with
  | some c => some c
  | none =>
    if place.isEmpty || t.items.any fun i => place.isPrefixOf i.1 then some .directory else none

/-- Faults of looking for a file. -/
def missing : Fault := .system 2

/-- A name was looked for in something that is no directory. -/
def notDirectory : Fault := .system 20

/-- A directory was read as a file. -/
def isDirectory : Fault := .system 21

/-- A name or a path is too long. -/
def nameTooLong : Fault := .system 36

/-- The octets of a file are no text. -/
def notText : Fault := .io "stream did not contain valid UTF-8"

/-- No file can be asked for by this path. -/
def badPath : Fault := .io "file name contained an unexpected NUL byte"

/-- The longest name, in octets. -/
def maxName : Nat := 255

/-- A path must be shorter than this, in octets. -/
def maxPath : Nat := 4096

/-- The place that further names lead to from `place`, whose names are listed last first; `none`
stands for anywhere outside the working directory. -/
def resolve (t : FileTree) (place : Option (List (List Char))) :
    List (List Char) → Except Fault (Option (List (List Char)))
  | [] => .ok place
  | name :: rest =>
    match place with
    | none => if Path.isIdle name || name == ['.', '.'] then resolve t none rest else .error missing
    | some here =>
      match t.content? here.reverse with
      | none => .error missing
      | some (.file _) => .error notDirectory
      | some .directory =>
        if Path.isIdle name then resolve t (some here) rest
        else if name == ['.', '.'] then
          resolve t (if here.isEmpty then none else some here.tail) rest
        else if maxName < (String.ofList name).utf8ByteSize then .error nameTooLong
        else
          match t.content? (name :: here).reverse with
          | none => .error missing
          | some _ => resolve t (some (name :: here)) rest

/-- The text of the file at a path. -/
def read (t : FileTree) (p : Path) : Except Fault String := do
  if p.text.toList.contains '\x00' then throw badPath
  if p.text = "" then throw missing
  if maxPath ≤ p.text.utf8ByteSize then throw nameTooLong
  let start := if p.isAbsolute then none else some []
  match ← t.resolve start (Path.pieces p.text.toList) with
  | none => throw isDirectory
  | some place =>
    match t.content? place.reverse with
    | none => throw missing
    | some .directory => throw isDirectory
    | some (.file bytes) =>
      match String.fromUTF8? bytes with
      | some text => return text
      | none => throw notText

end FileTree

end BootEnv
