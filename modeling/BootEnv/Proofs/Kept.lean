import BootEnv.Proofs.Merge

/-!
# What a merge leaves as it was

A text is cut at its newlines and the merged text is too. Line by line they stand at the same places:
a line that assigns a variable of the file is written anew, and behind the lines of the text come
those of the variables that were missing. The other lines are kept, but since a carriage return before
a newline is read as part of the line's end and a bare newline is written back, each of them loses such
a carriage return. Only the last line of a text, when no newline follows it, keeps what it ends with.

* `Foreign`: a line that assigns no variable of the file; `KeepsForeign`: a text that has all of them.
* `pieces_mergedLines`: the lines of a merged text, cut at newlines.
* `getElem?_pieces`: **the line at each place of a merged text.**
* `pieces_merge`: what a merge changes, and **when it keeps all foreign lines as they are.**
* `merge_drops_return`: a merge that changes a foreign line.
-/

namespace BootEnv

namespace EnvFile

variable {f : EnvFile} {content line name rest : List Char} {value : String} {i : ℕ}

/-- What stands before the first equals sign of the line, if there is one, is no variable of the
file. -/
def Foreign (f : EnvFile) (line : List Char) : Prop :=
  ∀ name value, Text.cutAt? '=' line = some (name, value) → String.ofList name ∉ f.vars

/-- Each line that assigns no variable of the file stands at its place in the second text, character
for character. -/
def KeepsForeign (f : EnvFile) (existing merged : List Char) : Prop :=
  ∀ (i : ℕ) (line : List Char), (Text.pieces existing)[i]? = some line → f.Foreign line →
    (Text.pieces merged)[i]? = some line

section Line

theorem Foreign.assigned?_eq_none (h : f.Foreign line) : f.assigned? line = none := by
  rw [Option.eq_none_iff_forall_ne_some]
  intro v hv
  obtain ⟨hvar, a, ha, hn⟩ := assigned?_eq_some_iff.1 hv
  refine h a.name a.value (Assignment.ofLine?_eq_some_iff.1 ha).1 ?_
  rw [hn, String.ofList_toList]
  exact mem_vars_iff.2 ⟨v.2, hvar⟩

/-- A line with the name of a variable before its first equals sign assigns that variable, since the
names of the file can be written. -/
theorem assigned?_of_cutAt? (hf : f.check = .ok ()) (hcut : Text.cutAt? '=' line = some (name, rest))
    (hv : f.vars[String.ofList name]? = some value) :
    f.assigned? line = some (String.ofList name, value) := by
  have hname : isName name = true := by
    simpa using (fits_of_check hf hv).1
  exact assigned?_eq_some_iff.2
    ⟨hv, ⟨name, rest⟩, Assignment.ofLine?_eq_some_iff.2 ⟨hcut, hname⟩, (String.toList_ofList).symm⟩

end Line

section Places

/-- The lines of a merged text are its pieces. -/
theorem pieces_mergedLines (hf : f.check = .ok ()) (content : List Char) :
    Text.pieces (unlines (f.mergedLines (Text.lines content))) =
      f.mergedLines (Text.lines content) :=
  Text.pieces_unlines (newline_notMem_mergedLines hf fun _ => Text.newline_notMem_lines)

/-- A piece as it is read: without a carriage return at its end if a newline follows. -/
def readPiece (content : List Char) (i : ℕ) (line : List Char) : List Char :=
  if i < content.count '\n' then Text.dropReturn line else line

theorem assigned?_readPiece (f : EnvFile) (content : List Char) (i : ℕ) (line : List Char) :
    f.assigned? (readPiece content i line) = f.assigned? line := by
  unfold readPiece
  split
  · exact assigned?_dropReturn f line
  · rfl

/-- **The line at each place of a merged text**, down to the end of the text. -/
theorem getElem?_pieces (hf : f.check = .ok ()) (hi : (Text.pieces content)[i]? = some line) :
    (Text.pieces (unlines (f.mergedLines (Text.lines content))))[i]? =
      some (f.updateLine (readPiece content i line)) := by
  -- the line that is read at this place is the piece, and the lines come before all that is added
  have hline : (Text.lines content)[i]? = some (readPiece content i line) := by
    rw [Text.lines_eq_mapIdx, List.getElem?_mapIdx, hi]
    rfl
  rw [pieces_mergedLines hf]
  unfold mergedLines
  rw [List.getElem?_append_left, List.getElem?_map, hline, Option.map_some]
  rw [List.length_map]
  exact (List.getElem?_eq_some_iff.1 hline).1

theorem getElem?_pieces_of_foreign (hf : f.check = .ok ())
    (hi : (Text.pieces content)[i]? = some line) (h : f.Foreign line) :
    (Text.pieces (unlines (f.mergedLines (Text.lines content))))[i]? =
      some (readPiece content i line) := by
  have hnone : f.assigned? (readPiece content i line) = none := by
    rw [assigned?_readPiece, h.assigned?_eq_none]
  rw [getElem?_pieces hf hi, updateLine_of_none hnone]

theorem getElem?_pieces_of_assigned? (hf : f.check = .ok ())
    (hi : (Text.pieces content)[i]? = some line) {v : String × String}
    (h : f.assigned? line = some v) :
    (Text.pieces (unlines (f.mergedLines (Text.lines content))))[i]? = some (lineOf v) := by
  have hsome : f.assigned? (readPiece content i line) = some v := by
    rw [assigned?_readPiece, h]
  rw [getElem?_pieces hf hi, updateLine_of_assigned? hsome]

/-- Behind the lines of the text come those of the missing variables. -/
theorem drop_pieces (hf : f.check = .ok ()) (content : List Char) :
    (Text.pieces (unlines (f.mergedLines (Text.lines content)))).drop (Text.pieces content).length =
      (f.unassigned (Text.lines content)).map lineOf := by
  have hlen : (Text.pieces content).length = ((Text.lines content).map f.updateLine).length := by
    rw [List.length_map, Text.lines_eq_mapIdx, List.length_mapIdx]
  rw [pieces_mergedLines hf, hlen]
  exact List.drop_left

theorem readPiece_eq_self_iff :
    readPiece content i line = line ↔ (i < content.count '\n' → line.getLast? ≠ some '\r') := by
  unfold readPiece
  split
  next hi => rw [Text.dropReturn_eq_self_iff, imp_iff_right hi]
  next hi => exact iff_of_true rfl fun h => absurd h hi

end Places

/-- **What a merge leaves as it was.** A file that passes its check is merged into every text. Cut at
newlines, the text and the merged text have the same lines at the same places, but that a line with
the name of a variable before its first equals sign is now the line of that variable, and that any
other line is a carriage return shorter if it ended in one before a newline. Behind them come the
lines of the missing variables, and every line is ended by a newline. So all other lines are kept
character for character exactly when none of them ends in a carriage return before a newline. -/
theorem pieces_merge (f : EnvFile) (hf : f.check = .ok ()) (existing : String) :
    ∃ merged, f.merge existing = .ok merged ∧
      (∀ (i : ℕ) (line : List Char), (Text.pieces existing.toList)[i]? = some line →
        f.Foreign line → (Text.pieces merged.toList)[i]? =
          some (if i < existing.toList.count '\n' then Text.dropReturn line else line)) ∧
      (∀ (i : ℕ) (line name rest : List Char) (value : String),
        (Text.pieces existing.toList)[i]? = some line →
        Text.cutAt? '=' line = some (name, rest) → f.vars[String.ofList name]? = some value →
        (Text.pieces merged.toList)[i]? = some (lineOf (String.ofList name, value))) ∧
      (Text.pieces merged.toList).drop (Text.pieces existing.toList).length =
        (f.unassigned (Text.lines existing.toList)).map lineOf ∧
      merged.toList = unlines (Text.pieces merged.toList) ∧
      (f.KeepsForeign existing.toList merged.toList ↔
        ∀ (i : ℕ) (line : List Char), (Text.pieces existing.toList)[i]? = some line →
          f.Foreign line → i < existing.toList.count '\n' → line.getLast? ≠ some '\r') := by
  refine ⟨_, merge_of_check hf existing, ?_⟩
  rw [String.toList_ofList]
  refine ⟨fun i line hi h => getElem?_pieces_of_foreign hf hi h,
    fun i line name rest value hi hcut hv =>
      getElem?_pieces_of_assigned? hf hi (assigned?_of_cutAt? hf hcut hv),
    drop_pieces hf _, by rw [pieces_mergedLines hf], ?_⟩
  refine forall₂_congr fun i line => forall₂_congr fun hi h => ?_
  rw [getElem?_pieces_of_foreign hf hi h, Option.some.injEq, readPiece_eq_self_iff]

/-- A carriage return at the very end of a text is kept. -/
theorem pieces_merge_unended :
    ∃ merged, (ofRows [("A", "1")]).merge "B=2\n#\r" = .ok merged ∧
      (Text.pieces merged.toList)[1]? = some ['#', '\r'] := by
  obtain ⟨merged, hm, hforeign, -⟩ :=
    pieces_merge (ofRows [("A", "1")]) (by decide +kernel) "B=2\n#\r"
  refine ⟨merged, hm, ?_⟩
  rw [hforeign 1 ['#', '\r'] (by decide +kernel)]
  · decide +kernel
  · intro name value h
    exact absurd h (by simp [Text.cutAt?])

/-- **A merge changes a line that it has nothing to do with**: one that ends in a carriage return
before a newline. -/
theorem merge_drops_return :
    (ofRows [("A", "1")]).check = .ok () ∧
      (ofRows [("A", "1")]).merge "B=2\r\n" = .ok "B=2\nA=1\n" ∧
      ¬ (ofRows [("A", "1")]).KeepsForeign "B=2\r\n".toList "B=2\nA=1\n".toList := by
  refine ⟨by decide +kernel, by decide +kernel, fun hkeeps => ?_⟩
  have hforeign : (ofRows [("A", "1")]).Foreign ['B', '=', '2', '\r'] := by
    intro name value h
    have hcut : Text.cutAt? '=' ['B', '=', '2', '\r'] = some (['B'], ['2', '\r']) := by decide
    rw [hcut, Option.some.injEq, Prod.mk.injEq] at h
    rw [← h.1]
    decide +kernel
  exact absurd (hkeeps 0 ['B', '=', '2', '\r'] (by decide +kernel) hforeign) (by decide +kernel)

end EnvFile

end BootEnv
