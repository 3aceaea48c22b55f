import BootEnv.Text.Segment

/-!
# Paths

A path is a text in which slashes separate names. It is absolute when it starts with a slash. Empty
names and the name `.` stand for nothing.

* `Path.names`: the names that matter, in order.
* `Path.relative`: a path made relative: an absolute one loses its leading slashes, and what stands
  for nothing at either end goes with them.
* `Path.join`: a path below another; an absolute right side replaces the left one.
* `Path.under`: a path below a root, absolute or not.
* `Path.same`: two spellings of one path.
-/

namespace BootEnv

/-- A path, as it is written. -/
structure Path where
  text : String
  deriving Repr, DecidableEq

namespace Path

/-- A name that stands for nothing. -/
def isIdle (name : List Char) : Bool := name == [] || name == ['.']

/-- The pieces of a path between slashes. -/
def pieces (cs : List Char) : List (List Char) := Text.segments (· == '/') cs

/-- The names of a path, without those that stand for nothing. -/
def names (p : Path) : List (List Char) := (pieces p.text.toList).filter fun n => !isIdle n

/-- The path starts with a slash. -/
def isAbsolute (p : Path) : Bool := p.text.toList.head? == some '/'

/-- Names joined by slashes. -/
def joinNames (names : List (List Char)) : List Char := ['/'].intercalate names

/-- The list without what stands for nothing at its ends. -/
def trimIdle (names : List (List Char)) : List (List Char) :=
  ((names.dropWhile isIdle).reverse.dropWhile isIdle).reverse

/-- The path without the slash that makes it absolute, and without what stands for nothing at the
ends of the rest; a relative path as it is. -/
def relative (p : Path) : Path :=
  match p.text.toList with
  | '/' :: rest => ⟨String.ofList (joinNames (trimIdle (pieces rest)))⟩
  | _ => p

/-- The path `p` seen from `root`. -/
def join (root p : Path) : Path :=
  if p.isAbsolute then p
  else if root.text = "" ∨ root.text.toList.getLast? = some '/' then ⟨root.text ++ p.text⟩
  else ⟨root.text ++ "/" ++ p.text⟩

/-- The path `p` below `root`, also when it is absolute. -/
def under (root p : Path) : Path := root.join p.relative

/-- A relative path that starts with the name `.`, which is told apart from one that does not. -/
def startsIdle (p : Path) : Bool := (pieces p.text.toList).head? == some ['.']

/-- The paths have the same names, and start alike. -/
def same (p q : Path) : Bool :=
  p.isAbsolute == q.isAbsolute && p.startsIdle == q.startsIdle && p.names == q.names

end Path

end BootEnv
