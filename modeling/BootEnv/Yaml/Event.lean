import BootEnv.Yaml.Token.Lexer

/-!
# The events of a document

What a document says, in the order in which it says it: nodes, references to earlier nodes, and the
end of a mapping. Only what is flat is read: a document is a scalar, or a mapping of scalars. Reading
ends where a list begins, or a mapping inside the mapping.

Tokens are read one by one, so what stands before a fault is known.

* `Reader.step`: one token further.
* `Reader.run`: the events of tokens, and whether they have been read to their end.
* `Reading.ofText`: the same of a text.
-/

namespace BootEnv.Yaml

/-- A node of a document. A list or a mapping stands for its beginning. -/
inductive Node where
  | scalar (tag : Option (List Char)) (s : Scalar)
  | list
  | map
  deriving Repr, DecidableEq

/-- What a document says. -/
inductive Event where
  | node (anchor : Option (List Char)) (n : Node)
  /-- An earlier node, by the name of its anchor. -/
  | alias (name : List Char)
  /-- The mapping ends. -/
  | close
  deriving Repr, DecidableEq

/-- Where a node may stand. -/
inductive Slot where
  /-- The document itself. -/
  | top
  | key
  | value
  | flowKey
  /-- A key in braces without a value. -/
  | flowLone
  | flowValue
  deriving Repr, DecidableEq

/-- What stands in front of a node. -/
structure Properties where
  anchor : Option (List Char) := none
  tag : Option (List Char) := none
  deriving Repr, DecidableEq

/-- What is due. -/
inductive Mode where
  /-- The first document. -/
  | start
  /-- More directives, or the document that they belong to. -/
  | directives (hasVersion : Bool)
  /-- A node, which may be left out. -/
  | due (slot : Slot)
  /-- A node, behind its properties. -/
  | node (slot : Slot) (p : Properties)
  /-- A key of the mapping, or its end. -/
  | entry
  /-- The sign of a value. -/
  | colon
  /-- A key of the mapping in braces, or its end. -/
  | flowEntry
  /-- The sign of a value, in braces. -/
  | flowColon
  /-- What follows a key in braces without a value. -/
  | flowLone
  /-- What follows an entry in braces. -/
  | flowNext
  /-- The end of the text, when the document has ended. -/
  | behind
  /-- Nothing: something that is not read has begun. -/
  | nested
  /-- Nothing: the text has ended. -/
  | done
  deriving Repr, DecidableEq

namespace Slot

/-- Indentation can open a list or a mapping here. -/
def isBlock : Slot → Bool
  | top | key | value => true
  | flowKey | flowLone | flowValue => false

/-- The sign of an item can open a list here, without further indentation. -/
def takesItem : Slot → Bool
  | key | value => true
  | top | flowKey | flowLone | flowValue => false

/-- The token shows that the node here is left out. -/
def isLeftOut : Slot → Token → Bool
  | top, .version .. | top, .handle .. | top, .documentStart | top, .documentEnd
  | top, .textEnd => true
  | key, .key | key, .value | key, .blockEnd => true
  | value, .key | value, .value | value, .blockEnd => true
  | flowKey, .value | flowKey, .comma | flowKey, .flowMapEnd => true
  | flowValue, .comma | flowValue, .flowMapEnd => true
  | _, _ => false

/-- What is due behind the node here. -/
def after : Slot → Mode
  | top => .behind
  | key => .colon
  | value => .entry
  | flowKey => .flowColon
  | flowLone => .flowLone
  | flowValue => .flowNext

end Slot

namespace Properties

/-- There are properties. -/
def areGiven (p : Properties) : Bool := p.anchor.isSome || p.tag.isSome

/-- A scalar with these properties. For a scalar, the tag that is only a mark says nothing. -/
def scalar (p : Properties) (s : Scalar) : Event :=
  .node p.anchor (.scalar (p.tag.filter (· ≠ ['!'])) s)

/-- A scalar that is left out. -/
def empty (p : Properties) : Event := p.scalar ⟨[], true⟩

end Properties

/-- What a token comes to: the events that it adds, and what is due behind it; nothing is where the
token cannot stand, perhaps after events that it has shown to be missing. -/
structure Outcome where
  events : List Event := []
  next? : Option Mode
  deriving Repr, DecidableEq

namespace Outcome

/-- The token cannot stand. -/
def refused : Outcome := { next? := none }

/-- The token adds nothing. -/
def silent (m : Mode) : Outcome := { next? := some m }

/-- The token adds one event. -/
def single (e : Event) (m : Mode) : Outcome := ⟨[e], some m⟩

/-- The outcome with an event in front. -/
def behind (e : Event) (o : Outcome) : Outcome := { o with events := e :: o.events }

end Outcome

namespace Mode

open Outcome (refused silent single)

/-- A scalar that is left out without any properties. -/
def leftOut : Event := ({} : Properties).empty

/-- A token behind a document. -/
def stepBehind : Token → Outcome
  | .documentEnd => silent behind
  | .textEnd => silent done
  | _ => refused

/-- A token where a key of the mapping is due. -/
def stepEntry : Token → Outcome
  | .key => silent (due .key)
  | .blockEnd => single .close behind
  | _ => refused

/-- A token where the sign of a value is due. -/
def stepColon : Token → Outcome
  | .value => silent (due .value)
  | t => (stepEntry t).behind leftOut

/-- A token behind an entry in braces. -/
def stepFlowNext : Token → Outcome
  | .comma => silent flowEntry
  | .flowMapEnd => single .close behind
  | _ => refused

/-- A token where the sign of a value is due, in braces. -/
def stepFlowColon : Token → Outcome
  | .value => silent (due .flowValue)
  | t => (stepFlowNext t).behind leftOut

/-- A token behind a key in braces without a value. -/
def stepFlowLone (t : Token) : Outcome := (stepFlowNext t).behind leftOut

/-- A token behind the node of a slot. -/
def stepAfter : Slot → Token → Outcome
  | .top => stepBehind
  | .key => stepColon
  | .value => stepEntry
  | .flowKey => stepFlowColon
  | .flowLone => stepFlowLone
  | .flowValue => stepFlowNext

/-- A token where a node with the given properties is left out. -/
def stepLeftOut (slot : Slot) (p : Properties) (t : Token) : Outcome :=
  (stepAfter slot t).behind p.empty

end Mode

/-- What tag handles stand for. -/
abbrev Handles := List (List Char × List Char)

namespace Handles

/-- The handles that need no directive. -/
def default : Handles := [(['!'], ['!']), (['!', '!'], "tag:yaml.org,2002:".toList)]

/-- The tag that a handle and a rest make. -/
def expand? (h : Handles) (handle rest : List Char) : Option (List Char) :=
  if handle.isEmpty then some rest
  else ((h ++ default).lookup handle).map (· ++ rest)

end Handles

namespace Mode

open Outcome (refused silent single)

/-- A token where a node is due behind its properties. -/
def stepNode (h : Handles) (slot : Slot) (p : Properties) (t : Token) : Outcome :=
  let other := if p.areGiven then stepLeftOut slot p t else refused
  match t with
  | .anchor name =>
    if p.anchor.isSome then other else silent (node slot { p with anchor := some name })
  | .tag handle rest =>
    if p.tag.isSome then other
    else
      match h.expand? handle rest with
      | some tag => silent (node slot { p with tag := some tag })
      | none => refused
  | .alias name => if p.areGiven then other else single (.alias name) slot.after
  | .scalar s => single (p.scalar s) slot.after
  | .flowList => single (.node p.anchor .list) nested
  | .flowMap => single (.node p.anchor .map) (if slot = .top then flowEntry else nested)
  | .blockList => if slot.isBlock then single (.node p.anchor .list) nested else other
  | .blockMap =>
    if slot.isBlock then single (.node p.anchor .map) (if slot = .top then entry else nested)
    else other
  | .item => if slot.takesItem then single (.node p.anchor .list) nested else other
  | _ => other

/-- A token where a node is due. -/
def stepDue (h : Handles) (slot : Slot) (t : Token) : Outcome :=
  if slot.isLeftOut t then stepLeftOut slot {} t else stepNode h slot {} t

/-- A token where a key of the mapping in braces is due. -/
def stepFlowEntry (h : Handles) : Token → Outcome
  | .flowMapEnd => single .close behind
  | .key => silent (due .flowKey)
  | t => stepNode h .flowLone {} t

/-- A token behind the directives of a document. -/
def step (h : Handles) : Mode → Token → Outcome
  | due slot => stepDue h slot
  | node slot p => stepNode h slot p
  | entry => stepEntry
  | colon => stepColon
  | flowEntry => stepFlowEntry h
  | flowColon => stepFlowColon
  | flowLone => stepFlowLone
  | flowNext => stepFlowNext
  | behind => stepBehind
  | start | directives _ | nested | done => fun _ => refused

end Mode

/-- The state of reading tokens: what tag handles stand for, and what is due. -/
structure Reader where
  handles : Handles := []
  mode : Mode := .start
  deriving Repr, DecidableEq

/-- What has been read. -/
structure Reading where
  events : List Event
  /-- All has been read. -/
  isComplete : Bool
  deriving Repr, DecidableEq

namespace Reader

/-- A directive, or the sign of a document. Versions other than 1.1 and 1.2 are not known. -/
def stepDirective? (r : Reader) (hasVersion : Bool) : Token → Option Reader
  | .version major minor =>
    if hasVersion ∨ major ≠ 1 ∨ (minor ≠ 1 ∧ minor ≠ 2) then none
    else some { r with mode := .directives true }
  | .handle name stem =>
    if (r.handles.lookup name).isSome then none
    else some ⟨r.handles ++ [(name, stem)], .directives hasVersion⟩
  | .documentStart => some { r with mode := .due .top }
  | _ => none

/-- The state behind a token that adds no event. -/
def direct (r? : Option Reader) : List Event × Option Reader := ([], r?)

/-- The state behind a token of a document. -/
def follow (r : Reader) (o : Outcome) : List Event × Option Reader :=
  (o.events, o.next?.map fun mode => { r with mode })

/-- One token further: the events that it adds, and the state behind it, if it can stand there. -/
def step (r : Reader) (t : Token) : List Event × Option Reader :=
  match r.mode, t with
  | .start, .version .. | .start, .handle .. | .start, .documentStart =>
    direct (r.stepDirective? false t)
  | .start, .textEnd => direct (some { r with mode := .done })
  | .start, _ => r.follow (Mode.stepNode r.handles .top {} t)
  | .directives hasVersion, _ => direct (r.stepDirective? hasVersion t)
  | mode, _ => r.follow (mode.step r.handles t)

/-- The events of tokens, as far as they can be read. -/
def run (r : Reader) : List Token → Reading
  | [] => ⟨[], r.mode == .done⟩
  | t :: ts =>
    match r.step t with
    | (es, none) => ⟨es, false⟩
    | (es, some r) =>
      let later := r.run ts
      ⟨es ++ later.events, later.isComplete⟩

end Reader

/-- The events of a text, as far as it can be read. -/
def Reading.ofText (text : List Char) : Reading := ({} : Reader).run (tokensOf text)

end BootEnv.Yaml
