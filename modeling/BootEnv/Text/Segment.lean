import BootEnv.Text.Blank

/-!
# Cutting a text

A text is cut at every character of a class; the pieces between the cuts are its segments, empty
ones included. Words and lines are read off the segments.

* `segments_append_cons`: **cutting a concatenation at a cut gives the segments of both sides**.
* `segments_not_mem`: no segment holds a cutting character.
* `intercalate_segments`, `segments_intercalate`: segments are put together again, and cut again.
* `cutAt?`: the first occurrence of one character divides a text in two.
* `words`: what stands between blanks; no word is empty and none holds a blank.
* `lines`: what stands between newlines, less one carriage return before a newline; a text that
  ends in a newline has no further empty line.
-/

namespace BootEnv.Text

variable {p : Char → Bool}

/-- The pieces of a text between the characters of the class `p`: one more than there are such
characters. -/
def segments (p : Char → Bool) : List Char → List (List Char)
  | [] => [[]]
  | c :: cs =>
    if p c then [] :: segments p cs
    else
      match segments p cs with
      | [] => [[c]]
      | s :: ss => (c :: s) :: ss

theorem segments_ne_nil (cs : List Char) : segments p cs ≠ [] := by
  cases cs with
  | nil => simp [segments]
  | cons c cs =>
    simp only [segments]
    split
    · simp
    · split <;> simp

theorem segments_cons_of_pos {c : Char} (h : p c = true) (cs : List Char) :
    segments p (c :: cs) = [] :: segments p cs := by
  simp [segments, h]

/-- **A cut inside a concatenation separates the segments of its two sides.** -/
theorem segments_append_cons {c : Char} (h : p c = true) (a b : List Char) :
    segments p (a ++ c :: b) = segments p a ++ segments p b := by
  induction a with
  | nil => simp [segments, h]
  | cons x a ih =>
    simp only [List.cons_append, segments]
    split
    · rw [ih]; rfl
    · rw [ih]
      cases hs : segments p a with
      | nil => exact absurd hs (segments_ne_nil a)
      | cons s ss => rfl

/-- A text without cutting characters is its only segment. -/
theorem segments_of_forall_not {cs : List Char} (h : ∀ c ∈ cs, p c = false) :
    segments p cs = [cs] := by
  induction cs with
  | nil => rfl
  | cons c cs ih =>
    rw [segments, ih fun x hx => h x (List.mem_cons_of_mem c hx)]
    simp [h c List.mem_cons_self]

theorem segments_not_mem {cs s : List Char} (hs : s ∈ segments p cs) : ∀ c ∈ s, p c = false := by
  induction cs generalizing s with
  | nil => simp [segments] at hs; simp [hs]
  | cons x cs ih =>
    simp only [segments] at hs
    split at hs
    · rcases List.mem_cons.1 hs with rfl | hs
      · simp
      · exact ih hs
    next hx =>
      cases ht : segments p cs with
      | nil => exact absurd ht (segments_ne_nil cs)
      | cons t ts =>
        rw [ht] at hs ih
        rcases List.mem_cons.1 hs with rfl | hs
        · intro c hc
          rcases List.mem_cons.1 hc with rfl | hc
          · simpa using hx
          · exact ih List.mem_cons_self c hc
        · exact ih (List.mem_cons_of_mem t hs)

/-- Segments with the cutting character put back are the text. -/
theorem intercalate_segments (c : Char) (cs : List Char) :
    [c].intercalate (segments (· == c) cs) = cs := by
  induction cs with
  | nil => rfl
  | cons x cs ih =>
    obtain ⟨s, ss, hs⟩ := List.exists_cons_of_ne_nil (segments_ne_nil (p := (· == c)) cs)
    rw [hs] at ih
    simp only [segments, hs]
    split
    next hx =>
      obtain rfl : x = c := by simpa using hx
      rw [List.intercalate_cons_cons, ih]
      rfl
    next hx =>
      conv => rhs; rw [← ih]
      cases ss with
      | nil => simp
      | cons t ss => simp [List.intercalate_cons_cons]

/-- Pieces without the separator are what a text joined from them is cut into. -/
theorem segments_intercalate {sep : Char} {ps : List (List Char)} (hne : ps ≠ [])
    (h : ∀ p ∈ ps, sep ∉ p) : segments (· == sep) ([sep].intercalate ps) = ps := by
  have hpiece : ∀ p ∈ ps, segments (· == sep) p = [p] := by
    intro p hp
    refine segments_of_forall_not fun c hc => ?_
    rw [beq_eq_false_iff_ne]
    rintro rfl
    exact h p hp hc
  induction ps with
  | nil => exact absurd rfl hne
  | cons p ps ih =>
    cases ps with
    | nil => simpa using hpiece p List.mem_cons_self
    | cons q ps =>
      rw [List.intercalate_cons_cons, List.append_assoc, List.singleton_append,
        segments_append_cons (by simp), hpiece p List.mem_cons_self,
        ih (List.cons_ne_nil q ps) (fun r hr => h r (List.mem_cons_of_mem p hr))
          (fun r hr => hpiece r (List.mem_cons_of_mem p hr))]
      rfl

/-- The text before and after the first occurrence of `c`; `none` when `c` does not occur. -/
def cutAt? (c : Char) : List Char → Option (List Char × List Char)
  | [] => none
  | x :: xs => if x = c then some ([], xs) else (cutAt? c xs).map fun r => (x :: r.1, r.2)

theorem cutAt?_append_cons {c : Char} {a : List Char} (h : c ∉ a) (b : List Char) :
    cutAt? c (a ++ c :: b) = some (a, b) := by
  induction a with
  | nil => simp [cutAt?]
  | cons x a ih =>
    simp only [List.mem_cons, not_or] at h
    simp [cutAt?, Ne.symm h.1, ih h.2]

theorem eq_of_cutAt? {c : Char} {cs a b : List Char} (h : cutAt? c cs = some (a, b)) :
    cs = a ++ c :: b ∧ c ∉ a := by
  induction cs generalizing a with
  | nil => simp [cutAt?] at h
  | cons x cs ih =>
    simp only [cutAt?] at h
    split at h
    next hx => simp only [Option.some.injEq, Prod.mk.injEq] at h; obtain ⟨rfl, rfl⟩ := h; simp [hx]
    next hx =>
      obtain ⟨⟨a', b'⟩, hr, he⟩ := Option.map_eq_some_iff.1 h
      simp only [Prod.mk.injEq] at he
      obtain ⟨rfl, rfl⟩ := he
      obtain ⟨rfl, hn⟩ := ih hr
      simpa [hn] using fun h => hx h.symm

/-- The words of a text: its segments between blanks, empty ones left out. -/
def words (cs : List Char) : List (List Char) :=
  (segments isBlank cs).filter fun w => !w.isEmpty

theorem words_append_blank {c : Char} (h : isBlank c = true) (a b : List Char) :
    words (a ++ c :: b) = words a ++ words b := by
  simp [words, segments_append_cons h]

/-- One carriage return at the end of a line is no part of it. -/
def dropReturn (line : List Char) : List Char :=
  if line.getLast? = some '\r' then line.dropLast else line

/-- Segments between newlines, read as lines: each but the last was ended by a newline, and the
last one is a line only if it is not empty. -/
def endLines : List (List Char) → List (List Char)
  | [] => []
  | [last] => if last.isEmpty then [] else [last]
  | line :: rest => dropReturn line :: endLines rest

/-- The lines of a text. -/
def lines (cs : List Char) : List (List Char) :=
  endLines (segments (· == '\n') cs)

end BootEnv.Text
