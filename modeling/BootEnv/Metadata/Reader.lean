import BootEnv.Address.Parser
import BootEnv.Address.Printer
import BootEnv.Json.Basic
import BootEnv.Json.Number
import BootEnv.Metadata.Basic
import BootEnv.Text.Quoted

/-!
# Reading metadata

Metadata comes as a JSON text: an object with a member for each address, or a list of the addresses
in their order. An address is a string or null; members and items may be missing, and members of
other names are skipped.

The text is read from the front, so of two things wrong with it the first is reported.

* `Metadata.ofText`: the metadata in a text.
* `Metadata.toJson`: the object that says the same.
-/

namespace BootEnv

/-- The name of the member for a well-known token. -/
def WellKnown.member : WellKnown → String
  | publicV4 => "public_ipv4"
  | privateV4 => "private_ipv4"
  | publicV6 => "public_ipv6"
  | privateV6 => "private_ipv6"

namespace Metadata

open Json (skipBlanks readWord readString readNumber skipValue)

/-- A value that stands where something else is wanted. -/
inductive Found where
  | null
  | bool (value : Bool)
  | number (value : Json.NumberValue)
  | string (value : List Char)
  | list
  | object
  deriving Repr, DecidableEq

/-- How a message names a value. -/
def Found.text : Found → String
  | null => "null"
  | bool b => "boolean `" ++ (if b then "true" else "false") ++ "`"
  | number (.integer n) => "integer `" ++ toString n ++ "`"
  | number (.float negative x) =>
    "floating point `" ++ String.ofList (Json.NumberValue.floatText negative x) ++ "`"
  | string s => "string " ++ Text.quoted (String.ofList s)
  | list => "sequence"
  | object => "map"

/-- What is wanted in a place. -/
inductive Wanted where
  | metadata
  | address
  deriving Repr, DecidableEq

/-- How a message names what is wanted. -/
def Wanted.text : Wanted → String
  | metadata => "struct Metadata"
  | address => "IP address"

/-- Why a text holds no metadata. -/
inductive Fault where
  /-- The text is no JSON. -/
  | json (fault : Json.Fault)
  /-- A value of the wrong kind. -/
  | wrongKind (found : Found) (wanted : Wanted)
  /-- A member that occurs twice. -/
  | repeated (member : WellKnown)
  /-- A string that is no address. -/
  | badAddress
  deriving Repr, DecidableEq

/-- The text shown for a fault. -/
def Fault.text : Fault → String
  | json f => f.text
  | wrongKind found wanted => "invalid type: " ++ found.text ++ ", expected " ++ wanted.text
  | repeated w => "duplicate field `" ++ w.member ++ "`"
  | badAddress => "invalid IP address syntax"

/-- The outcome of a reader of JSON text. -/
def ofJson {α : Type} (r : Except Json.Fault α) : Except Fault α := r.mapError .json

/-- The fault of finding something else than what is wanted in front of a text. -/
def refuse {α : Type} (wanted : Wanted) (cs : List Char) : Except Fault α := do
  let found ← ofJson (α := Found) <| match skipBlanks cs with
    | [] => .error .endInValue
    | c :: rest =>
      if c = 'n' then (readWord "ull".toList rest).map fun _ => .null
      else if c = 't' then (readWord "rue".toList rest).map fun _ => .bool true
      else if c = 'f' then (readWord "alse".toList rest).map fun _ => .bool false
      else if c = '"' then (readString rest).map fun r => .string r.1
      else if c = '[' then .ok .list
      else if c = '\x7b' then .ok .object
      else if c = '-' ∨ isDigit 10 c then do
        let (l, _) ← readNumber (c = '-') (if c = '-' then rest else c :: rest)
        return .number (← Json.NumberValue.ofLiteral l)
      else .error .expectedValue
  throw (.wrongKind found wanted)

/-- An address or null, and the text behind it. -/
def readAddress (cs : List Char) : Except Fault (Option Address × List Char) :=
  match skipBlanks cs with
  | 'n' :: rest => do
    let rest ← ofJson (readWord "ull".toList rest)
    return (none, rest)
  | '"' :: rest => do
    let (s, rest) ← ofJson (readString rest)
    match Address.parse? s with
    | some a => return (some a, rest)
    | none => throw .badAddress
  | _ => refuse .address cs

/-- Addresses by well-known token, each at most once. -/
abbrev Fields := List (WellKnown × Option Address)

/-- The metadata with the given fields. -/
def ofFields (fields : Fields) : Metadata := ofFunction fun w => (fields.lookup w).join

/-! ## Objects -/

/-- The text behind the quote that opens a member's name; `none` at the end of the object. -/
def readNameStart (isFirst : Bool) (cs : List Char) : Except Fault (Option (List Char)) :=
  match skipBlanks cs with
  | [] => throw (.json .endInObject)
  | c :: rest =>
    if c = '\x7d' then return none
    else if isFirst then if c = '"' then return some rest else throw (.json .nameNotString)
    else if c = ',' then
      match skipBlanks rest with
      | [] => throw (.json .endInValue)
      | '"' :: rest => return some rest
      | '\x7d' :: _ => throw (.json .trailingComma)
      | _ => throw (.json .nameNotString)
    else throw (.json .expectedObjectEnd)

/-- The text behind a colon. -/
def readColon (cs : List Char) : Except Fault (List Char) :=
  match skipBlanks cs with
  | [] => throw (.json .endInObject)
  | ':' :: rest => return rest
  | _ => throw (.json .expectedColon)

/-- The field that a member's name is that of. -/
def field? (name : List Char) : Option WellKnown :=
  WellKnown.all.find? fun w => w.member.toList = name

/-- One member, from behind the quote that opens its name, added to those before it. -/
def readMember (fields : Fields) (cs : List Char) : Except Fault (Fields × List Char) := do
  let (name, rest) ← ofJson (readString cs)
  match field? name with
  | some w =>
    if (fields.lookup w).isSome then throw (.repeated w)
    let (address, rest) ← readAddress (← readColon rest)
    return ((w, address) :: fields, rest)
  | none =>
    let rest ← ofJson (skipValue (← readColon rest))
    return (fields, rest)

/-- The members of an object, up to the brace behind them. -/
def readMembers (isFirst : Bool) (fields : Fields) (cs : List Char) :
    Except Fault (Fields × List Char) := do
  match ← readNameStart isFirst cs with
  | none => return (fields, skipBlanks cs)
  | some rest =>
    let (fields, rest) ← readMember fields rest
    if rest.length < cs.length then readMembers false fields rest
    else throw (.json .endInObject)
termination_by cs.length

/-- What stands in front of a text and has to be the brace of an object. -/
def closeObject (cs : List Char) : Except Fault (List Char) :=
  match skipBlanks cs with
  | [] => throw (.json .endInObject)
  | '\x7d' :: rest => return rest
  | ',' :: _ => throw (.json .trailingComma)
  | _ => throw (.json .trailingText)

/-! ## Lists -/

/-- The text of the next item; `none` at the end of the list. -/
def readItemStart (isFirst : Bool) (cs : List Char) : Except Fault (Option (List Char)) :=
  match skipBlanks cs with
  | [] => throw (.json .endInList)
  | c :: rest =>
    if c = ']' then return none
    else if isFirst then return some (c :: rest)
    else if c = ',' then
      match skipBlanks rest with
      | [] => throw (.json .endInValue)
      | ']' :: _ => throw (.json .trailingComma)
      | rest => return some rest
    else throw (.json .expectedListEnd)

/-- Items for the given tokens, in order, as far as there are any. -/
def readItems (isFirst : Bool) : List WellKnown → List Char → Except Fault (Fields × List Char)
  | [], cs => return ([], cs)
  | w :: ws, cs => do
    match ← readItemStart isFirst cs with
    | none => return ([], cs)
    | some rest =>
      let (address, rest) ← readAddress rest
      let (fields, rest) ← readItems false ws rest
      return ((w, address) :: fields, rest)

/-- What stands in front of a text and has to be the bracket of a list. -/
def closeList (cs : List Char) : Except Fault (List Char) :=
  match skipBlanks cs with
  | [] => throw (.json .endInList)
  | ']' :: rest => return rest
  | ',' :: rest =>
    match skipBlanks rest with
    | ']' :: _ => throw (.json .trailingComma)
    | _ => throw (.json .trailingText)
  | _ => throw (.json .trailingText)

/-! ## Texts -/

/-- The fields in a text and what stands behind them. -/
def readFields (cs : List Char) : Except Fault (Fields × List Char) :=
  match skipBlanks cs with
  | '[' :: rest => do
    let (fields, rest) ← readItems true WellKnown.all rest
    return (fields, ← closeList rest)
  | '\x7b' :: rest => do
    let (fields, rest) ← readMembers true [] rest
    return (fields, ← closeObject rest)
  | _ => refuse .metadata cs

/-- The metadata in a text. -/
def ofText (text : String) : Except Fault Metadata := do
  let (fields, rest) ← readFields text.toList
  if (skipBlanks rest).isEmpty then return ofFields fields else throw (.json .trailingText)

/-! ## Writing -/

/-- A string with the address, or null. -/
def addressJson : Option Address → Json
  | some a => .string a.print
  | none => .null

/-- The object with a member for each address. -/
def toJson (m : Metadata) : Json :=
  .object (WellKnown.all.map fun w => (w.member.toList, addressJson (m.get w)))

end Metadata

end BootEnv
