import BootEnv.FileTree
import BootEnv.Host.Basic
import BootEnv.Numeral
import BootEnv.Text.Segment

/-!
# Route tables

The kernel's table of IPv4 routes: a route per line, in columns between blanks, of which the first
names the interface and the second, fourth and eighth are the destination, the flags and the mask in
hexadecimal. A route that is up and has neither destination nor mask is a default route.

* `RouteTable.Row`: what a line of the table amounts to.
* `RouteTable.read`: the routes of all lines, in order; a line that is none is reported.
* `RouteTable.ofFile`: the routes of a file.
-/

namespace BootEnv

/-- The route table of the running kernel. -/
def defaultRouteTable : String := "/proc/net/route"

namespace RouteTable

/-- What one line of a route table amounts to. -/
inductive Row where
  /-- A blank line or the heading. -/
  | nothing
  /-- Too few columns. -/
  | short
  /-- A column that is no number. -/
  | malformed
  /-- A route. -/
  | route (route : Route)
  deriving Repr, DecidableEq

/-- A column of thirty-two bits in hexadecimal. -/
def word? (column : List Char) : Option Nat := (Numeral.parse? 16 column).filter (· < Nat.pow 2 32)

/-- The lowest flag says that a route is up. -/
def isUp (flags : Nat) : Bool := flags % 2 == 1

/-- The row that a line's columns make. -/
def Row.ofColumns : List (List Char) → Row
  | [] => .nothing
  | name :: rest =>
    if name = "Iface".toList then .nothing
    else
      match rest with
      | destination :: _ :: flags :: _ :: _ :: _ :: mask :: _ =>
        match word? destination, word? flags, word? mask with
        | some destination, some flags, some mask =>
          .route {
            interface? := if name = ['*'] then none else some (String.ofList name)
            isDefault := destination == 0 && mask == 0 && isUp flags }
        | _, _, _ => .malformed
      | _ => .short

/-- The route of a row, if it is one. -/
def Row.route? : Row → Option Route
  | route r => some r
  | _ => none

/-- What is reported of a row, given the number of its line. -/
def Row.event? (line : Nat) : Row → Option Event
  | short => some (.shortRouteLine line)
  | malformed => some (.malformedRouteLine line)
  | _ => none

/-- The rows of a text, one for each line. -/
def rows (text : List Char) : List Row :=
  (Text.lines text).map fun line => Row.ofColumns (Text.words line)

/-- The routes of a text and what is reported of its other lines, counted from zero. -/
def read (text : String) : Reported (List Route) :=
  let rows := rows text.toList
  { value := rows.filterMap Row.route?
    events := rows.zipIdx.filterMap fun (row, line) => row.event? line }

/-- The routes of a file. -/
def ofFile (files : FileTree) (path : Path) : Reported (Except Fault (List Route)) :=
  match files.read path with
  | .ok text => do return .ok (← read text)
  | .error f => pure (.error f)

end RouteTable

end BootEnv
