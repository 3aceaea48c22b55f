import BootEnv.Host.RouteTable
import BootEnv.Proofs.Pieces
import Mathlib.Data.List.Basic
import Mathlib.Data.String.Basic

/-!
# Route tables line by line

Each line of a route table is read on its own. It gives a route, or an event with its number, or
nothing when it is blank or the heading. How a line ends does not matter: a carriage return is blank,
and behind the last newline of a text stands at most an empty line. So a table is read newline by
newline, as if each line had been a table.

* `RouteTable.read_eq_ofRows`: **a text gives what its segments between newlines give.**
* `RouteTable.ofRows_append`: of two runs of rows, the second is numbered behind the first.
* `RouteTable.read_append`: two tables with a newline between them.
* `RouteTable.read_of_notMem`: a single line.
* `RouteTable.read_by_lines`: **both laws, and what each line gives.**
-/

namespace BootEnv

/-- The event as it is reported `k` lines further down. -/
def Event.later (k : ℕ) : Event → Event
  | shortRouteLine n => .shortRouteLine (n + k)
  | malformedRouteLine n => .malformedRouteLine (n + k)
  | e => e

/-- A carriage return at the end of a line is blank, so its words are the same without it. -/
theorem Text.words_dropReturn (line : List Char) : words (dropReturn line) = words line := by
  unfold dropReturn
  split
  next hlast =>
    obtain ⟨front, rfl⟩ := List.getLast?_eq_some_iff.1 hlast
    rw [List.dropLast_concat, words_append_blank isBlank_return]
    exact (List.append_nil _).symm
  next => rfl

namespace RouteTable

open Text (segments lines words)

variable {line : List Char} {columns : List (List Char)}

section Rows

/-- The row that a line makes. -/
def rowOf (line : List Char) : Row := Row.ofColumns (words line)

/-- The rows of a text, one for each segment between newlines. -/
def segmentRows (text : List Char) : List Row := (segments (· == '\n') text).map rowOf

/-- The routes of rows, and what is reported of the others, counted from zero. -/
def ofRows (rows : List Row) : Reported (List Route) :=
  { value := rows.filterMap Row.route?
    events := rows.zipIdx.filterMap fun p => p.1.event? p.2 }

theorem length_segmentRows (text : List Char) :
    (segmentRows text).length = text.count '\n' + 1 := by
  unfold segmentRows
  rw [List.length_map, Text.length_segments]
  rfl

theorem segmentRows_append (a b : List Char) :
    segmentRows (a ++ '\n' :: b) = segmentRows a ++ segmentRows b := by
  unfold segmentRows
  rw [Text.segments_append_cons rfl, List.map_append]

/-- A text without a newline makes one row. -/
theorem segmentRows_of_notMem (h : '\n' ∉ line) : segmentRows line = [rowOf line] := by
  unfold segmentRows
  rw [Text.segments_newline h, List.map_singleton]

/-- Read as lines, the segments make the same rows, but that an empty last one makes none. -/
theorem map_rowOf_endLines (ss : List (List Char)) :
    ss.map rowOf = (Text.endLines ss).map rowOf ∨
      ss.map rowOf = (Text.endLines ss).map rowOf ++ [.nothing] := by
  induction ss with
  | nil => exact .inl rfl
  | cons s ss ih =>
    cases ss with
    | nil =>
      by_cases hs : s = []
      · subst hs
        exact .inr rfl
      · exact .inl (by simp [Text.endLines, hs])
    | cons t ss =>
      have hrow : rowOf (Text.dropReturn s) = rowOf s := by
        unfold rowOf
        rw [Text.words_dropReturn]
      have hfront : ∀ ls, (Text.dropReturn s :: ls).map rowOf = rowOf s :: ls.map rowOf := by
        intro ls
        rw [List.map_cons, hrow]
      rw [Text.endLines_cons_cons, hfront, List.cons_append]
      exact ih.imp (congrArg (rowOf s :: ·)) (congrArg (rowOf s :: ·))

/-- An event carries the number of its line. -/
theorem Row.event?_add (r : Row) (n k : ℕ) :
    r.event? (n + k) = (r.event? n).map (Event.later k) := by
  cases r <;> rfl

/-- **The rows behind others are numbered behind them.** -/
theorem ofRows_append (a b : List Row) :
    (ofRows (a ++ b)).value = (ofRows a).value ++ (ofRows b).value ∧
      (ofRows (a ++ b)).events =
        (ofRows a).events ++ (ofRows b).events.map (Event.later a.length) := by
  refine ⟨List.filterMap_append, ?_⟩
  have hshift : b.zipIdx a.length = b.zipIdx.map fun p => (p.1, p.2 + a.length) := by
    rw [List.zipIdx_eq_map_add]
    simp only [Nat.add_comm]
  unfold ofRows
  dsimp only
  rw [List.zipIdx_append, List.filterMap_append, Nat.zero_add, hshift, List.filterMap_map,
    List.map_filterMap]
  simp only [Function.comp_def, Row.event?_add]

theorem ofRows_concat_nothing (rows : List Row) : ofRows (rows ++ [.nothing]) = ofRows rows := by
  obtain ⟨hvalue, hevents⟩ := ofRows_append rows [.nothing]
  unfold ofRows at hvalue hevents ⊢
  rw [Reported.mk.injEq]
  exact ⟨hvalue.trans (List.append_nil _), hevents.trans (List.append_nil _)⟩

end Rows

section Lines

/-- **A text gives what its segments between newlines give**, however its lines end. -/
theorem read_eq_ofRows (text : String) : read text = ofRows (segmentRows text.toList) := by
  have hread : read text = ofRows ((lines text.toList).map rowOf) := rfl
  rw [hread]
  unfold segmentRows lines
  rcases map_rowOf_endLines (segments (· == '\n') text.toList) with h | h
  · rw [h]
  · rw [h, ofRows_concat_nothing]

/-- **Two tables with a newline between them**: the routes of both, and what is reported of both,
with the lines of the second counted on. -/
theorem read_append (a b : String) :
    (read (a ++ "\n" ++ b)).value = (read a).value ++ (read b).value ∧
      (read (a ++ "\n" ++ b)).events =
        (read a).events ++ (read b).events.map (Event.later (a.toList.count '\n' + 1)) := by
  have htext : (a ++ "\n" ++ b).toList = a.toList ++ '\n' :: b.toList := by
    rw [String.toList_append, String.toList_append, List.append_assoc]
    rfl
  rw [read_eq_ofRows, read_eq_ofRows, read_eq_ofRows, htext, segmentRows_append,
    ← length_segmentRows]
  exact ofRows_append _ _

/-- A text without a newline gives what its one row gives. -/
theorem read_of_notMem (h : '\n' ∉ line) :
    read (String.ofList line) = ⟨(rowOf line).route?.toList, ((rowOf line).event? 0).toList⟩ := by
  rw [read_eq_ofRows, String.toList_ofList, segmentRows_of_notMem h]
  cases rowOf line <;> simp [ofRows, Row.route?, Row.event?]

theorem value_read (text : String) :
    (read text).value =
      (lines text.toList).flatMap fun line => (read (String.ofList line)).value := by
  have hread : (read text).value = (lines text.toList).filterMap fun line => (rowOf line).route? :=
    List.filterMap_map
  rw [hread, List.filterMap_eq_flatMap_toList]
  refine List.flatMap_congr fun line hline => ?_
  rw [read_of_notMem (Text.newline_notMem_lines hline)]

theorem events_read (text : String) :
    (read text).events = (lines text.toList).zipIdx.flatMap fun p =>
      (read (String.ofList p.1)).events.map (Event.later p.2) := by
  have hread : (read text).events =
      (lines text.toList).zipIdx.filterMap fun p => (rowOf p.1).event? p.2 := by
    show ((lines text.toList).map rowOf).zipIdx.filterMap (fun p => p.1.event? p.2) = _
    rw [List.zipIdx_map, List.filterMap_map]
    rfl
  rw [hread, List.filterMap_eq_flatMap_toList]
  refine List.flatMap_congr fun p hp => ?_
  have hline : p.1 ∈ lines text.toList := List.fst_mem_of_mem_zipIdx hp
  have hevent := (rowOf p.1).event?_add 0 p.2
  rw [Nat.zero_add] at hevent
  rw [read_of_notMem (Text.newline_notMem_lines hline), hevent]
  exact Option.toList_map

end Lines

section Columns

/-- Nothing but a blank line and the heading says nothing. -/
theorem Row.ofColumns_eq_nothing_iff :
    Row.ofColumns columns = .nothing ↔ columns = [] ∨ columns.head? = some "Iface".toList := by
  unfold Row.ofColumns
  split
  · simp
  · split
    · simp_all
    · split
      · split <;> simp_all
      · simp_all

end Columns

/-- **A route table is read line by line.** Of two tables with a newline between them the routes are
those of the first and then those of the second, and so are the events, with one line more than the
first has newlines counted on. A table gives what its lines give, each read as a table of its own and
counted by its place: nothing at all when the line has no column or the heading's first one, else one
route and no event, or no route and one event with its number. -/
theorem read_by_lines :
    (∀ a b : String,
      (read (a ++ "\n" ++ b)).value = (read a).value ++ (read b).value ∧
      (read (a ++ "\n" ++ b)).events =
        (read a).events ++ (read b).events.map (Event.later (a.toList.count '\n' + 1))) ∧
    ∀ text : String,
      (read text).value =
        ((lines text.toList).flatMap fun line => (read (String.ofList line)).value) ∧
      (read text).events = ((lines text.toList).zipIdx.flatMap fun p =>
        (read (String.ofList p.1)).events.map (Event.later p.2)) ∧
      ∀ line ∈ lines text.toList,
        if words line = [] ∨ (words line).head? = some "Iface".toList then
          read (String.ofList line) = ⟨[], []⟩
        else
          (∃ route, read (String.ofList line) = ⟨[route], []⟩) ∨
          ∃ e, (e = .shortRouteLine 0 ∨ e = .malformedRouteLine 0) ∧ e.level = .debug ∧
            read (String.ofList line) = ⟨[], [e]⟩ := by
  refine ⟨read_append, fun text => ⟨value_read text, events_read text, fun line hline => ?_⟩⟩
  rw [read_of_notMem (Text.newline_notMem_lines hline)]
  split
  next hnothing =>
    have hrow : rowOf line = .nothing := Row.ofColumns_eq_nothing_iff.2 hnothing
    rw [hrow]
    rfl
  next hcolumns =>
    have hrow : rowOf line ≠ .nothing := mt Row.ofColumns_eq_nothing_iff.1 hcolumns
    cases hr : rowOf line with
    | nothing => exact absurd hr hrow
    | short => exact .inr ⟨_, .inl rfl, rfl, rfl⟩
    | malformed => exact .inr ⟨_, .inr rfl, rfl, rfl⟩
    | route route => exact .inl ⟨route, rfl⟩

/-- The last line of a text, with a carriage return and no newline behind it: it has too few columns,
and says so under its own number. -/
theorem read_by_lines_unended :
    ['*', '\u2003', '0', '\r'] ∈ lines "Iface\r\n\n*\u20030\r".toList ∧
      (read "Iface\r\n\n*\u20030\r").events = [.shortRouteLine 2] ∧
      ∃ e, e.level = .debug ∧ read (String.ofList ['*', '\u2003', '0', '\r']) = ⟨[], [e]⟩ := by
  have hmem : ['*', '\u2003', '0', '\r'] ∈ lines "Iface\r\n\n*\u20030\r".toList := by
    decide +kernel
  obtain ⟨-, htext⟩ := read_by_lines
  obtain ⟨-, -, hline⟩ := htext "Iface\r\n\n*\u20030\r"
  refine ⟨hmem, by decide +kernel, ?_⟩
  have hlast := hline _ hmem
  rw [if_neg (by decide +kernel)] at hlast
  rcases hlast with ⟨route, hroute⟩ | ⟨e, -, hlevel, he⟩
  · have hvalue : (read (String.ofList ['*', '\u2003', '0', '\r'])).value = [] := by decide +kernel
    rw [hroute] at hvalue
    exact absurd hvalue (List.cons_ne_nil _ _)
  · exact ⟨e, hlevel, he⟩

end RouteTable

end BootEnv
