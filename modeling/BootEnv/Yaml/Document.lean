import BootEnv.Yaml.Event
import Std.Data.ExtTreeMap

/-!
# Documents with their references

The events of a document in which each alias is the number of a node. An anchor is numbered by how
many names are known before it, and an alias has the number that was last given to its name. An
alias of a name that is not known ends the document like any fault.

* `Document.ofText`: the document in a text, as far as it can be read.
* `Document.node?`: the node that a part stands for.
-/

namespace BootEnv.Yaml

/-- A part of a document. -/
inductive Part where
  | node (n : Node)
  /-- The node with the given number. -/
  | alias (number : Nat)
  /-- The mapping ends. -/
  | close
  deriving Repr, DecidableEq

/-- The numbers of names, and the nodes with numbers. A later node takes the place of an earlier one
with its number. -/
structure Anchors where
  numbers : Std.ExtTreeMap String Nat := ∅
  nodes : Std.ExtTreeMap Nat Node := ∅

/-- A document, as far as it can be read. -/
structure Document where
  parts : List Part
  anchors : Anchors
  /-- All of the text has been read. -/
  isComplete : Bool

namespace Anchors

/-- One more node with an anchor. -/
def add (a : Anchors) (name : List Char) (n : Node) : Anchors :=
  ⟨a.numbers.insert (String.ofList name) a.numbers.size, a.nodes.insert a.numbers.size n⟩

/-- The document whose further events are given, when the anchors so far are. -/
def readEvents (a : Anchors) (isComplete : Bool) : List Event → Document
  | [] => ⟨[], a, isComplete⟩
  | e :: es =>
    let read (p : Part) (a : Anchors) : Document :=
      let d := readEvents a isComplete es
      { d with parts := p :: d.parts }
    match e with
    | .node none n => read (.node n) a
    | .node (some name) n => read (.node n) (a.add name n)
    | .alias name =>
      match a.numbers[String.ofList name]? with
      | some number => read (.alias number) a
      | none => ⟨[], a, false⟩
    | .close => read .close a

end Anchors

namespace Document

/-- The document that events make. -/
def ofReading (r : Reading) : Document := ({} : Anchors).readEvents r.isComplete r.events

/-- The document in a text. -/
def ofText (text : List Char) : Document := ofReading (Reading.ofText text)

/-- The node that a part stands for. -/
def node? (d : Document) : Part → Option Node
  | .node n => some n
  | .alias number => d.anchors.nodes[number]?
  | .close => none

end Document

end BootEnv.Yaml
