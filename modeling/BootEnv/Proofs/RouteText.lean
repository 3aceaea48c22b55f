import BootEnv.Host.Survey
import BootEnv.Proofs.Hexadecimal
import BootEnv.Proofs.RouteLines

/-!
# Route tables as they are written

A route table may be laid out in many ways: any blanks between the columns of a line and at its ends,
either kind of line end, headings and other lines that are no routes anywhere. Here a table is what is
written, and what the reader finds in it does not depend on the layout.

* `LineText`, `TableText`: the texts that lay out the columns of a line, and those of several lines.
* `Text.words_of_lineText`: **the words of a line are its columns**, and `Text.tableText_lines`: every
  text is a table of the words of its lines.
* `RouteTable.ofRows_of_tableText`: the rows of a table are those of its columns.
* `RouteRow`, `IsFiller`: the lines that are routes, and those that are none.
* `RouteTable.read_written`: **the routes of a table and its default interface.**
-/

namespace BootEnv

/-- A run of blanks that does not end the line. -/
def IsGap (gap : List Char) : Prop := ∀ c ∈ gap, Text.isBlank c = true ∧ c ≠ '\n'

/-- A word without blanks. -/
def IsColumn (word : List Char) : Prop := word ≠ [] ∧ ∀ c ∈ word, Text.isBlank c = false

/-- The text has the given columns, from the first one on: a gap stands between two columns, and there
may be one behind the last. -/
inductive ColumnText : List (List Char) → List Char → Prop
  | last {word gap} (hword : IsColumn word) (hgap : IsGap gap) : ColumnText [word] (word ++ gap)
  | cons {word gap words cs} (hword : IsColumn word) (hgap : IsGap gap) (hne : gap ≠ [])
      (h : ColumnText words cs) : ColumnText (word :: words) (word ++ gap ++ cs)

/-- The text is a line with the given columns, of which there may be none. -/
inductive LineText : List (List Char) → List Char → Prop
  | blank {gap} (hgap : IsGap gap) : LineText [] gap
  | columns {gap words cs} (hgap : IsGap gap) (h : ColumnText words cs) : LineText words (gap ++ cs)

/-- What ends a line. -/
inductive LineEnd : List Char → Prop
  | newline : LineEnd ['\n']
  | returnNewline : LineEnd ['\r', '\n']

/-- The text is a table with the given lines. The last line need not be ended. -/
inductive TableText : List (List (List Char)) → List Char → Prop
  | nil : TableText [] []
  | unended {columns line} (h : LineText columns line) : TableText [columns] line
  | cons {columns line ending lines rest} (h : LineText columns line) (hend : LineEnd ending)
      (hrest : TableText lines rest) : TableText (columns :: lines) (line ++ ending ++ rest)

/-- The text is a numeral of thirty-two bits: at least one sign, and a plus in front of them or not. -/
def WritesWord (column : List Char) (n : ℕ) : Prop :=
  ∃ plus signs, column = plus ++ signs ∧ (plus = [] ∨ plus = ['+']) ∧ signs ≠ [] ∧
    (∀ c ∈ signs, IsHex c) ∧ hexValue signs = n ∧ n < 2 ^ 32

variable {gap word line text : List Char}

namespace Text

variable {columns : List (List Char)}

section Words

theorem words_nil : words [] = [] := rfl

theorem words_append_gap (hgap : ∀ c ∈ gap, isBlank c = true) (cs : List Char) :
    words (gap ++ cs) = words cs := by
  induction gap with
  | nil => rfl
  | cons c gap ih =>
    have hc : words (c :: (gap ++ cs)) = words [] ++ words (gap ++ cs) :=
      words_append_blank (hgap c List.mem_cons_self) [] (gap ++ cs)
    rw [List.cons_append, hc, words_nil, List.nil_append]
    exact ih fun c hc => hgap c (List.mem_cons_of_mem _ hc)

theorem words_column (h : IsColumn word) : words word = [word] := by
  obtain ⟨hne, hblank⟩ := h
  unfold words
  rw [segments_of_forall_not hblank]
  simp [hne]

theorem words_column_append_gap (hword : IsColumn word) (hgap : IsGap gap) (hne : gap ≠ [])
    (cs : List Char) : words (word ++ gap ++ cs) = word :: words cs := by
  obtain ⟨c, gap, rfl⟩ := List.exists_cons_of_ne_nil hne
  have hc := (hgap c List.mem_cons_self).1
  have hrest : ∀ d ∈ gap, isBlank d = true := fun d hd => (hgap d (List.mem_cons_of_mem c hd)).1
  rw [List.append_assoc, List.cons_append, words_append_blank hc, words_append_gap hrest,
    words_column hword]
  rfl

theorem words_of_columnText (h : ColumnText columns text) : words text = columns := by
  induction h with
  | @last word gap hword hgap =>
    by_cases hne : gap = []
    · subst hne
      rw [List.append_nil, words_column hword]
    · have hwords := words_column_append_gap hword hgap hne []
      rw [List.append_nil] at hwords
      rw [hwords, words_nil]
  | cons hword hgap hne h ih => rw [words_column_append_gap hword hgap hne, ih]

/-- **The words of a line are its columns.** -/
theorem words_of_lineText (h : LineText columns line) : words line = columns := by
  cases h with
  | blank hgap =>
    have hwords := words_append_gap (fun c hc => (hgap c hc).1) []
    rwa [List.append_nil] at hwords
  | columns hgap h =>
    rw [words_append_gap fun c hc => (hgap c hc).1]
    exact words_of_columnText h

end Words

section Newlines

theorem newline_notMem_gap (h : IsGap gap) : '\n' ∉ gap := fun hmem => (h _ hmem).2 rfl

theorem newline_notMem_column (h : IsColumn word) : '\n' ∉ word :=
  fun hmem => absurd (h.2 _ hmem) (by decide)

theorem newline_notMem_columnText (h : ColumnText columns text) : '\n' ∉ text := by
  induction h with
  | last hword hgap =>
    rw [List.mem_append, not_or]
    exact ⟨newline_notMem_column hword, newline_notMem_gap hgap⟩
  | cons hword hgap hne h ih =>
    rw [List.mem_append, List.mem_append, not_or, not_or]
    exact ⟨⟨newline_notMem_column hword, newline_notMem_gap hgap⟩, ih⟩

/-- A line holds no newline. -/
theorem newline_notMem_lineText (h : LineText columns line) : '\n' ∉ line := by
  cases h with
  | blank hgap => exact newline_notMem_gap hgap
  | columns hgap h =>
    rw [List.mem_append, not_or]
    exact ⟨newline_notMem_gap hgap, newline_notMem_columnText h⟩

end Newlines

section Total

variable {c : Char}

theorem isGap_nil : IsGap [] := by simp [IsGap]

theorem isGap_cons (hc : isBlank c = true) (hn : c ≠ '\n') (h : IsGap gap) : IsGap (c :: gap) :=
  List.forall_mem_cons.2 ⟨⟨hc, hn⟩, h⟩

theorem isColumn_cons (hc : isBlank c = false) (h : ∀ d ∈ word, isBlank d = false) :
    IsColumn (c :: word) :=
  ⟨List.cons_ne_nil c word, List.forall_mem_cons.2 ⟨hc, h⟩⟩

theorem lineText_cons_blank (hc : isBlank c = true) (hn : c ≠ '\n') (h : LineText columns line) :
    LineText columns (c :: line) := by
  cases h with
  | blank hgap => exact .blank (isGap_cons hc hn hgap)
  | columns hgap h => exact .columns (isGap_cons hc hn hgap) h

/-- In front of a line, a character that is not blank makes the first column longer or is one. -/
theorem exists_lineText_cons (hc : isBlank c = false) (h : LineText columns line) :
    ∃ columns', LineText columns' (c :: line) := by
  have hsingle : IsColumn [c] := isColumn_cons hc (by simp)
  cases h with
  | blank hgap => exact ⟨_, .columns isGap_nil (.last hsingle hgap)⟩
  | @columns gap _ _ hgap h =>
    by_cases hne : gap = []
    · subst hne
      cases h with
      | last hword hgap => exact ⟨_, .columns isGap_nil (.last (isColumn_cons hc hword.2) hgap)⟩
      | cons hword hgap hne h =>
        exact ⟨_, .columns isGap_nil (.cons (isColumn_cons hc hword.2) hgap hne h)⟩
    · exact ⟨_, .columns isGap_nil (.cons hsingle hgap hne h)⟩

/-- **Every line lays out its words.** -/
theorem lineText_words (h : '\n' ∉ line) : LineText (words line) line := by
  have hsome : ∃ columns, LineText columns line := by
    induction line with
    | nil => exact ⟨[], .blank isGap_nil⟩
    | cons c line ih =>
      rw [List.mem_cons, not_or] at h
      obtain ⟨columns, hline⟩ := ih h.2
      cases hc : isBlank c with
      | true => exact ⟨columns, lineText_cons_blank hc (Ne.symm h.1) hline⟩
      | false => exact exists_lineText_cons hc hline
  obtain ⟨columns, hline⟩ := hsome
  rwa [words_of_lineText hline]

theorem lines_append_newline (h : '\n' ∉ line) (rest : List Char) :
    lines (line ++ '\n' :: rest) = dropReturn line :: lines rest := by
  obtain ⟨s, ss, hs⟩ := List.exists_cons_of_ne_nil (segments_ne_nil (p := (· == '\n')) rest)
  unfold lines
  rw [segments_append_cons rfl, segments_newline h, hs]
  rfl

/-- **Every text is a table** of the words of its lines. -/
theorem tableText_lines (text : List Char) : TableText ((lines text).map words) text := by
  induction hn : text.length using Nat.strongRecOn generalizing text with
  | ind n ih =>
    by_cases hnewline : '\n' ∈ text
    · obtain ⟨line, rest, rfl, hline⟩ := List.eq_append_cons_of_mem hnewline
      have hrest := ih rest.length (by simp at hn; omega) rest rfl
      rw [lines_append_newline hline, List.map_cons, words_dropReturn]
      by_cases hreturn : line.getLast? = some '\r'
      · obtain ⟨front, rfl⟩ := List.getLast?_eq_some_iff.1 hreturn
        have hfront : '\n' ∉ front := fun h => hline (List.mem_append_left _ h)
        have hwords : words (front ++ ['\r']) = words front := by
          rw [words_append_blank isBlank_return]
          exact List.append_nil _
        have htext : front ++ ['\r'] ++ '\n' :: rest = front ++ ['\r', '\n'] ++ rest := by simp
        rw [hwords, htext]
        exact .cons (lineText_words hfront) .returnNewline hrest
      · have htext : line ++ '\n' :: rest = line ++ ['\n'] ++ rest := by simp
        rw [htext]
        exact .cons (lineText_words hline) .newline hrest
    · unfold lines
      rw [segments_newline hnewline]
      by_cases hne : text = []
      · subst hne
        exact .nil
      · have hlines : endLines [text] = [text] := by simp [endLines, hne]
        rw [hlines]
        exact .unended (lineText_words hnewline)

end Total

end Text

namespace RouteTable

variable {columns : List (List Char)}

section Layout

theorem segmentRows_of_lineText (h : LineText columns line) :
    segmentRows line = [Row.ofColumns columns] := by
  rw [segmentRows_of_notMem (Text.newline_notMem_lineText h)]
  unfold rowOf
  rw [Text.words_of_lineText h]

/-- The end of a line is no part of its columns. -/
theorem segmentRows_lineEnd {ending : List Char} (h : LineText columns line) (hend : LineEnd ending)
    (rest : List Char) :
    segmentRows (line ++ ending ++ rest) = Row.ofColumns columns :: segmentRows rest := by
  cases hend with
  | newline =>
    rw [List.append_assoc, List.singleton_append, segmentRows_append, segmentRows_of_lineText h]
    rfl
  | returnNewline =>
    -- the carriage return is one more blank at the end of the line
    have hwords : Text.words (line ++ ['\r']) = columns := by
      rw [Text.words_append_blank Text.isBlank_return, Text.words_of_lineText h]
      exact List.append_nil _
    have hnewline : '\n' ∉ line ++ ['\r'] := by
      rw [List.mem_append, not_or]
      exact ⟨Text.newline_notMem_lineText h, by decide⟩
    have htext : line ++ ['\r', '\n'] ++ rest = (line ++ ['\r']) ++ '\n' :: rest := by simp
    rw [htext, segmentRows_append, segmentRows_of_notMem hnewline]
    unfold rowOf
    rw [hwords]
    rfl

/-- **The rows of a table are those of its columns**, and behind its last newline stands an empty
line. -/
theorem ofRows_of_tableText {lines : List (List (List Char))} (h : TableText lines text) :
    ofRows (segmentRows text) = ofRows (lines.map Row.ofColumns) := by
  have hrows : segmentRows text = lines.map Row.ofColumns ∨
      segmentRows text = lines.map Row.ofColumns ++ [.nothing] := by
    induction h with
    | nil => exact .inr rfl
    | unended h => exact .inl (segmentRows_of_lineText h)
    | cons h hend hrest ih =>
      rw [segmentRows_lineEnd h hend, List.map_cons, List.cons_append]
      exact ih.imp (congrArg _) (congrArg _)
  rcases hrows with h | h
  · rw [h]
  · rw [h, ofRows_concat_nothing]

end Layout

end RouteTable

/-- A number of thirty-two bits together with its text. -/
structure Word where
  text : List Char
  value : ℕ
  writes : WritesWord text value

/-- A line that is a route: eight columns and any number of others. -/
structure RouteRow where
  name : List Char
  destination : Word
  gateway : List Char
  flags : Word
  references : List Char
  uses : List Char
  metric : List Char
  mask : Word
  more : List (List Char)
  name_ne : name ≠ "Iface".toList

namespace RouteRow

/-- The columns of a route. -/
def columns (r : RouteRow) : List (List Char) :=
  [r.name, r.destination.text, r.gateway, r.flags.text, r.references, r.uses, r.metric,
    r.mask.text] ++ r.more

/-- The route leads everywhere and is up. -/
def IsDefault (r : RouteRow) : Prop :=
  r.destination.value = 0 ∧ r.mask.value = 0 ∧ r.flags.value % 2 = 1

instance (r : RouteRow) : Decidable r.IsDefault :=
  inferInstanceAs (Decidable (_ ∧ _ ∧ _))

/-- What a route says: its interface, unless that is a star, and whether it is a default route. -/
def route (r : RouteRow) : Route where
  interface? := if r.name = ['*'] then none else some (String.ofList r.name)
  isDefault := r.IsDefault

@[simp] theorem isDefault_route (r : RouteRow) : r.route.isDefault = true ↔ r.IsDefault :=
  decide_eq_true_iff

end RouteRow

/-- The columns make no route: there are none, or the heading's first one, or too few, or one that has
to be a number is none. -/
def IsFiller (columns : List (List Char)) : Prop :=
  columns = [] ∨ columns.head? = some "Iface".toList ∨ columns.length < 8 ∨
    ∃ i ∈ [1, 3, 7], ∃ word, columns[i]? = some word ∧ ∀ n, ¬ WritesWord word n

/-- A line of a table. -/
inductive TableLine where
  | row (r : RouteRow)
  | filler (columns : List (List Char)) (h : IsFiller columns)

namespace TableLine

/-- The columns of a line. -/
def columns : TableLine → List (List Char)
  | row r => r.columns
  | filler cs _ => cs

/-- The route in a line, if it is one. -/
def row? : TableLine → Option RouteRow
  | row r => some r
  | filler .. => none

end TableLine

namespace RouteTable

variable {columns : List (List Char)} {lines : List TableLine}

section Rows

/-- **Which columns of a route table are numbers**, and which numbers they are. -/
theorem word?_eq_some_iff {column : List Char} {n : ℕ} :
    word? column = some n ↔ WritesWord column n := by
  have hplus : ¬ IsHex '+' := by decide +kernel
  have hfilter : word? column = some n ↔ Numeral.parse? 16 column = some n ∧ n < 2 ^ 32 := by
    unfold word?
    rw [Option.filter_eq_some_iff, decide_eq_true_eq, Nat.pow_eq]
  rw [hfilter]
  constructor
  · rintro ⟨hparse, hn⟩
    by_cases hhead : column.head? = some '+'
    · obtain ⟨signs, rfl⟩ := List.head?_eq_some_iff.1 hhead
      rw [Numeral.parse?_plus, Option.ite_none_left_eq_some, Numeral.value?_hex_iff] at hparse
      obtain ⟨hne, hsigns, hvalue⟩ := hparse
      exact ⟨['+'], signs, rfl, .inr rfl, hne, hsigns, hvalue, hn⟩
    · rw [Numeral.parse?_of_head? _ hhead, Option.ite_none_left_eq_some,
        Numeral.value?_hex_iff] at hparse
      obtain ⟨hne, hsigns, hvalue⟩ := hparse
      exact ⟨[], column, rfl, .inl rfl, hne, hsigns, hvalue, hn⟩
  · rintro ⟨plus, signs, rfl, rfl | rfl, hne, hsigns, rfl, hn⟩
    · have hhead : signs.head? ≠ some '+' := by
        intro hhead
        exact hplus (hsigns '+' (List.mem_of_mem_head? hhead))
      rw [List.nil_append, Numeral.parse?_of_head? _ hhead, if_neg hne]
      exact ⟨Numeral.value?_hex_iff.2 ⟨hsigns, rfl⟩, hn⟩
    · rw [List.singleton_append, Numeral.parse?_plus, if_neg hne]
      exact ⟨Numeral.value?_hex_iff.2 ⟨hsigns, rfl⟩, hn⟩

theorem ofColumns_row (r : RouteRow) : Row.ofColumns r.columns = .route r.route := by
  have hdestination := word?_eq_some_iff.2 r.destination.writes
  have hflags := word?_eq_some_iff.2 r.flags.writes
  have hmask := word?_eq_some_iff.2 r.mask.writes
  have hdefault : (r.destination.value == 0 && r.mask.value == 0 && isUp r.flags.value) =
      decide r.IsDefault := by
    rw [Bool.eq_iff_iff, decide_eq_true_iff]
    unfold RouteRow.IsDefault isUp
    simp [and_assoc]
  unfold Row.ofColumns RouteRow.columns
  simp only [List.cons_append, List.nil_append, if_neg r.name_ne, hdestination, hflags, hmask,
    hdefault]
  rfl

/-- A filler is read as no route. -/
theorem route?_filler (h : IsFiller columns) : (Row.ofColumns columns).route? = none := by
  unfold Row.ofColumns
  split
  · rfl
  next name rest =>
    split
    · rfl
    next hname =>
      split
      next destination gateway flags references uses metric mask more =>
        split
        next hdestination hflags hmask =>
          -- all three numbers can be read, so the line has no other fault left
          have hwords : ∀ i ∈ [1, 3, 7], ∀ word,
              (name :: destination :: gateway :: flags :: references :: uses :: metric :: mask ::
                more)[i]? = some word → ∃ n, WritesWord word n := by
            intro i hi word hword
            simp only [List.mem_cons, List.mem_nil_iff, or_false] at hi
            rcases hi with rfl | rfl | rfl <;> obtain rfl := Option.some.inj hword
            · exact ⟨_, word?_eq_some_iff.1 hdestination⟩
            · exact ⟨_, word?_eq_some_iff.1 hflags⟩
            · exact ⟨_, word?_eq_some_iff.1 hmask⟩
          rcases h with h | h | h | ⟨i, hi, word, hword, hnone⟩
          · exact absurd h (by simp)
          · exact absurd (Option.some.inj h) hname
          · exact absurd h (by simp)
          · obtain ⟨n, hn⟩ := hwords i hi word hword
            exact absurd hn (hnone n)
        · rfl
      · rfl

theorem route?_ofColumns (l : TableLine) :
    (Row.ofColumns l.columns).route? = l.row?.map RouteRow.route := by
  cases l with
  | row r => exact congrArg Row.route? (ofColumns_row r)
  | filler columns h => exact route?_filler h

end Rows

section Default

/-- The default interface is that of the first default route, if it has one. -/
theorem value_defaultInterface (interfaces : Except Fault (List Interface))
    (routes : Reported (List Route)) :
    (Host.defaultInterface ⟨interfaces, do return .ok (← routes)⟩).value =
      ((routes.value.find? (·.isDefault)).bind Route.interface?).getD "" := by
  unfold Host.defaultInterface
  simp only [Reported.value_bind, Reported.value_pure]
  cases routes.value.find? (·.isDefault) with
  | none => rfl
  | some r =>
    obtain ⟨interface?, isDefault⟩ := r
    cases interface? <;> rfl

theorem find?_map_route_eq_none {rows : List RouteRow} (h : ∀ r ∈ rows, ¬ r.IsDefault) :
    (rows.map RouteRow.route).find? (·.isDefault) = none := by
  rw [List.find?_eq_none]
  intro q hq
  obtain ⟨r, hr, rfl⟩ := List.mem_map.1 hq
  rw [RouteRow.isDefault_route]
  exact h r hr

theorem find?_map_route {front back : List RouteRow} {r : RouteRow} (hr : r.IsDefault)
    (hfront : ∀ q ∈ front, ¬ q.IsDefault) :
    ((front ++ r :: back).map RouteRow.route).find? (·.isDefault) = some r.route := by
  rw [List.map_append, List.map_cons, List.find?_append, find?_map_route_eq_none hfront,
    Option.none_or, List.find?_cons_of_pos (r.isDefault_route.2 hr)]

end Default

/-- **A route table says what is written in it.** Whatever the layout of its lines, and whatever lines
stand between them that are no routes, a table has one route for each row, in order: its interface is
the first column unless that is a star, and it is a default route when the destination and the mask are
zero and the flags are odd. The default interface is the first column of the first default route, and
the empty text if that is a star or if there is none. -/
theorem read_written (lines : List TableLine) (text : String)
    (h : TableText (lines.map TableLine.columns) text.toList)
    (interfaces : Except Fault (List Interface)) :
    (read text).value = (lines.filterMap TableLine.row?).map RouteRow.route ∧
    (∀ front r back, lines.filterMap TableLine.row? = front ++ r :: back → r.IsDefault →
      (∀ q ∈ front, ¬ q.IsDefault) →
      (Host.defaultInterface ⟨interfaces, do return .ok (← read text)⟩).value =
        if r.name = ['*'] then "" else String.ofList r.name) ∧
    ((∀ r ∈ lines.filterMap TableLine.row?, ¬ r.IsDefault) →
      (Host.defaultInterface ⟨interfaces, do return .ok (← read text)⟩).value = "") := by
  have hvalue : (read text).value = (lines.filterMap TableLine.row?).map RouteRow.route := by
    rw [read_eq_ofRows, ofRows_of_tableText h]
    unfold ofRows
    dsimp only
    rw [List.filterMap_map, List.filterMap_map, List.map_filterMap]
    exact congrArg (List.filterMap · lines) (funext route?_ofColumns)
  refine ⟨hvalue, fun front r back hrows hr hfront => ?_, fun hnone => ?_⟩
  · rw [value_defaultInterface, hvalue, hrows, find?_map_route hr hfront, Option.bind_some]
    unfold RouteRow.route
    dsimp only
    split <;> rfl
  · rw [value_defaultInterface, hvalue, find?_map_route_eq_none hnone]
    rfl

/-- A table with its heading, a default route in a line with another blank, leading zeros and another
line end, a line whose flags are too large for a number, and a default route without an interface in a
line that is not ended; and a table whose one route is not up. -/
theorem read_written_mixed :
    (Host.defaultInterface ⟨.ok [], do return .ok (← read
      "Iface\n e\u2003+0 g f r u m 000000000\r\nlo 0 g 100000001 r u m 0\n* 0 g 1 r u m 0")⟩).value =
        "e" ∧
      (Host.defaultInterface ⟨.ok [], do return .ok (← read "e 0 g E r u m 0")⟩).value = "" := by
  have hzero : WritesWord ['0'] 0 := word?_eq_some_iff.1 (by decide +kernel)
  have hplus : WritesWord ['+', '0'] 0 := word?_eq_some_iff.1 (by decide +kernel)
  have hzeros : WritesWord (List.replicate 9 '0') 0 := word?_eq_some_iff.1 (by decide +kernel)
  have hodd : WritesWord ['f'] 15 := word?_eq_some_iff.1 (by decide +kernel)
  have heven : WritesWord ['E'] 14 := word?_eq_some_iff.1 (by decide +kernel)
  have hone : WritesWord ['1'] 1 := word?_eq_some_iff.1 (by decide +kernel)
  have hlarge : ∀ n, ¬ WritesWord "100000001".toList n := by
    intro n hn
    have hnone : word? "100000001".toList = none := by decide +kernel
    rw [word?_eq_some_iff.2 hn] at hnone
    exact Option.some_ne_none n hnone
  constructor
  · have htext := Text.tableText_lines
      "Iface\n e\u2003+0 g f r u m 000000000\r\nlo 0 g 100000001 r u m 0\n* 0 g 1 r u m 0".toList
    have hlines : (Text.lines
        "Iface\n e\u2003+0 g f r u m 000000000\r\nlo 0 g 100000001 r u m 0\n* 0 g 1 r u m 0".toList).map
          Text.words =
        [["Iface".toList],
          [['e'], ['+', '0'], ['g'], ['f'], ['r'], ['u'], ['m'], List.replicate 9 '0'],
          ["lo".toList, ['0'], ['g'], "100000001".toList, ['r'], ['u'], ['m'], ['0']],
          [['*'], ['0'], ['g'], ['1'], ['r'], ['u'], ['m'], ['0']]] := by
      decide +kernel
    rw [hlines] at htext
    have htable := read_written
      [.filler ["Iface".toList] (.inr (.inl rfl)),
        .row ⟨['e'], ⟨_, _, hplus⟩, ['g'], ⟨_, _, hodd⟩, ['r'], ['u'], ['m'], ⟨_, _, hzeros⟩, [],
          by decide +kernel⟩,
        .filler ["lo".toList, ['0'], ['g'], "100000001".toList, ['r'], ['u'], ['m'], ['0']]
          (.inr (.inr (.inr ⟨3, by decide, _, rfl, hlarge⟩))),
        .row ⟨['*'], ⟨_, _, hzero⟩, ['g'], ⟨_, _, hone⟩, ['r'], ['u'], ['m'], ⟨_, _, hzero⟩, [],
          by decide +kernel⟩]
      _ htext (.ok [])
    exact htable.2.1 [] _ _ rfl ⟨rfl, rfl, (by decide : 15 % 2 = 1)⟩ (by simp)
  · have htext := Text.tableText_lines "e 0 g E r u m 0".toList
    have hlines : (Text.lines "e 0 g E r u m 0".toList).map Text.words =
        [[['e'], ['0'], ['g'], ['E'], ['r'], ['u'], ['m'], ['0']]] := by
      decide +kernel
    rw [hlines] at htext
    have htable := read_written
      [.row ⟨['e'], ⟨_, _, hzero⟩, ['g'], ⟨_, _, heven⟩, ['r'], ['u'], ['m'], ⟨_, _, hzero⟩, [],
        by decide +kernel⟩]
      _ htext (.ok [])
    refine htable.2.2 fun r hr => ?_
    obtain rfl := List.mem_singleton.1 hr
    exact fun hdefault => absurd hdefault.2.2 (by decide : ¬ 14 % 2 = 1)

end RouteTable

end BootEnv
