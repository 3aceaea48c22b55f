import BootEnv.Proofs.Content
import Mathlib.Data.List.Infix

/-!
# Pieces of a text between newlines

A text is cut in two ways. Its lines leave out a carriage return before a newline; its pieces are
what stands between newlines, character by character. Writing lines back with a newline each gives
a text whose pieces are those lines, so what is lost is the carriage returns.

* `lines_eq_mapIdx`: **the lines are the pieces, less a carriage return where a newline follows.**
* `pieces_unlines`: lines without newlines are the pieces of the text they make.
* `dropReturns`: a text less one carriage return before each newline.
* `dropReturns_unlines`: **which is the text of its lines.**
* `dropReturns_eq_self_iff`: a text is left as it is when no carriage return stands before a newline.
-/

namespace BootEnv.Text

open EnvFile (unlines)

variable {cs l : List Char} {ls ss : List (List Char)} {c : Char}

/-- Segments between newlines, read as pieces: the last one counts only if it is not empty. -/
def endPieces : List (List Char) → List (List Char)
  | [] => []
  | [last] => if last.isEmpty then [] else [last]
  | piece :: rest => piece :: endPieces rest

/-- What stands between newlines. A newline at the end of the text ends the last piece. -/
def pieces (cs : List Char) : List (List Char) := endPieces (segments (· == '\n') cs)

/-- A text less one carriage return before each newline that has one. -/
def dropReturns : List Char → List Char
  | [] => []
  | c :: cs => if c = '\r' ∧ cs.head? = some '\n' then dropReturns cs else c :: dropReturns cs

section Ends

theorem dropReturn_cons_cons (a b : Char) (l : List Char) :
    dropReturn (a :: b :: l) = a :: dropReturn (b :: l) := by
  unfold dropReturn
  rw [List.getLast?_cons_cons, List.dropLast_cons_cons]
  split <;> rfl

/-- Behind another character, a line ends as the rest of it does. -/
theorem dropReturn_cons (h : c ≠ '\r') (l : List Char) : dropReturn (c :: l) = c :: dropReturn l := by
  cases l with
  | nil => simp [dropReturn, h]
  | cons b l => exact dropReturn_cons_cons c b l

theorem dropReturn_append_cons (h : c ≠ '\r') (a b : List Char) :
    dropReturn (a ++ c :: b) = a ++ c :: dropReturn b := by
  induction a with
  | nil => exact dropReturn_cons h b
  | cons x a ih =>
    rw [List.cons_append, List.cons_append, ← ih]
    cases a <;> exact dropReturn_cons_cons _ _ _

theorem mem_of_mem_dropReturn (h : c ∈ dropReturn l) : c ∈ l := by
  unfold dropReturn at h
  split at h
  · exact List.mem_of_mem_dropLast h
  · exact h

theorem dropReturn_eq_self_iff : dropReturn l = l ↔ l.getLast? ≠ some '\r' := by
  unfold dropReturn
  split
  next hlast =>
    have hne : l ≠ [] := by
      rintro rfl
      simp at hlast
    have hlen := List.length_pos_iff.2 hne
    refine iff_of_false (fun he => ?_) (not_not_intro hlast)
    have := congrArg List.length he
    rw [List.length_dropLast] at this
    omega
  next hlast => exact iff_of_true rfl hlast

end Ends

section Cutting

/-- There is one segment more than there are cuts. -/
theorem length_segments (p : Char → Bool) (cs : List Char) :
    (segments p cs).length = cs.countP p + 1 := by
  induction cs with
  | nil => rfl
  | cons c cs ih =>
    simp only [segments]
    split
    next hc => rw [List.length_cons, ih, List.countP_cons_of_pos hc]
    next hc =>
      rw [List.countP_cons_of_neg hc, ← ih]
      split
      next hs => exact absurd hs (segments_ne_nil cs)
      next hs => rw [hs]; rfl

theorem endLines_cons_cons (s t : List Char) (ss : List (List Char)) :
    endLines (s :: t :: ss) = dropReturn s :: endLines (t :: ss) := rfl

theorem endPieces_cons_cons (s t : List Char) (ss : List (List Char)) :
    endPieces (s :: t :: ss) = s :: endPieces (t :: ss) := rfl

/-- Of the segments, all but the last were ended by a newline. -/
theorem endLines_eq_mapIdx (ss : List (List Char)) :
    endLines ss =
      (endPieces ss).mapIdx fun i s => if i + 1 < ss.length then dropReturn s else s := by
  induction ss with
  | nil => rfl
  | cons s ss ih =>
    cases ss with
    | nil => by_cases hs : s.isEmpty <;> simp [endLines, endPieces, hs]
    | cons t ss =>
      rw [endLines_cons_cons, endPieces_cons_cons, ih, List.mapIdx_cons]
      simp

/-- **The lines are the pieces, less a carriage return where a newline follows.** -/
theorem lines_eq_mapIdx (cs : List Char) :
    lines cs = (pieces cs).mapIdx fun i s => if i < cs.count '\n' then dropReturn s else s := by
  unfold lines pieces
  rw [endLines_eq_mapIdx, length_segments]
  simp only [Nat.add_lt_add_iff_right]
  rfl

theorem mem_of_mem_endLines (h : l ∈ endLines ss) : ∃ s ∈ ss, l = s ∨ l = dropReturn s := by
  induction ss with
  | nil => simp [endLines] at h
  | cons s ss ih =>
    cases ss with
    | nil =>
      have hl : l = s := by
        unfold endLines at h
        split at h
        · simp at h
        · exact List.mem_singleton.1 h
      exact ⟨s, List.mem_cons_self, .inl hl⟩
    | cons t ss =>
      rw [endLines_cons_cons] at h
      rcases List.mem_cons.1 h with rfl | h
      · exact ⟨s, List.mem_cons_self, .inr rfl⟩
      · obtain ⟨u, hu, hl⟩ := ih h
        exact ⟨u, List.mem_cons_of_mem s hu, hl⟩

/-- A line holds no newline. -/
theorem newline_notMem_lines (h : l ∈ lines cs) : '\n' ∉ l := by
  obtain ⟨s, hs, hl⟩ := mem_of_mem_endLines h
  have hseg : '\n' ∉ s := fun hn => absurd (segments_not_mem hs '\n' hn) (by decide)
  rcases hl with rfl | rfl
  · exact hseg
  · exact fun hn => hseg (mem_of_mem_dropReturn hn)

theorem endPieces_concat_nil (ls : List (List Char)) : endPieces (ls ++ [[]]) = ls := by
  induction ls with
  | nil => rfl
  | cons l ls ih =>
    rw [List.cons_append]
    conv_rhs => rw [← ih]
    cases ls <;> rfl

/-- Lines without newlines are the pieces of the text that they make. -/
theorem pieces_unlines (h : ∀ l ∈ ls, '\n' ∉ l) : pieces (unlines ls) = ls := by
  unfold pieces
  rw [segments_unlines h, endPieces_concat_nil]

theorem count_unlines (h : ∀ l ∈ ls, '\n' ∉ l) : (unlines ls).count '\n' = ls.length := by
  have hlen := length_segments (· == '\n') (unlines ls)
  rw [segments_unlines h, List.length_append] at hlen
  exact (Nat.add_right_cancel hlen).symm

theorem getLast?_unlines (h : ls ≠ []) : (unlines ls).getLast? = some '\n' := by
  obtain ⟨ls, l, rfl⟩ := (List.eq_nil_or_concat' ls).resolve_left h
  simp [unlines]

end Cutting

section Returns

/-- One carriage return is dropped at the end of a line without newlines, and no other. -/
theorem dropReturns_append_newline (h : '\n' ∉ l) (cs : List Char) :
    dropReturns (l ++ '\n' :: cs) = dropReturn l ++ '\n' :: dropReturns cs := by
  induction l with
  | nil => simp [dropReturns, dropReturn]
  | cons a l ih =>
    have ih := ih fun hl => h (List.mem_cons_of_mem a hl)
    rw [List.cons_append, dropReturns, ih]
    cases l with
    | nil => by_cases ha : a = '\r' <;> simp [dropReturn, ha]
    | cons b l =>
      have hb : b ≠ '\n' := by
        rintro rfl
        exact h (by simp)
      rw [dropReturn_cons_cons]
      simp [hb]

/-- **Less a carriage return before each newline, a text is that of its lines.** -/
theorem dropReturns_unlines (h : ∀ l ∈ ls, '\n' ∉ l) :
    dropReturns (unlines ls) = unlines (ls.map dropReturn) := by
  induction ls with
  | nil => rfl
  | cons l ls ih =>
    rw [List.map_cons, unlines_cons, unlines_cons, dropReturns_append_newline (h l List.mem_cons_self),
      ih fun l' hl' => h l' (List.mem_cons_of_mem l hl')]

theorem length_dropReturns_le (cs : List Char) : (dropReturns cs).length ≤ cs.length := by
  induction cs with
  | nil => exact Nat.le_refl 0
  | cons c cs ih =>
    rw [dropReturns]
    split
    · exact Nat.le_succ_of_le ih
    · exact Nat.succ_le_succ ih

/-- No newline is lost. -/
theorem count_dropReturns (cs : List Char) : (dropReturns cs).count '\n' = cs.count '\n' := by
  induction cs with
  | nil => rfl
  | cons c cs ih =>
    rw [dropReturns]
    split
    next hc => rw [ih, hc.1, List.count_cons_of_ne (by decide)]
    next => rw [List.count_cons, List.count_cons, ih]

/-- **A text keeps all its characters when no carriage return stands before a newline.** -/
theorem dropReturns_eq_self_iff (cs : List Char) :
    dropReturns cs = cs ↔ ¬ ['\r', '\n'] <:+: cs := by
  induction cs with
  | nil => simp [dropReturns]
  | cons c cs ih =>
    have hfront : ['\r', '\n'] <+: c :: cs ↔ c = '\r' ∧ cs.head? = some '\n' := by
      cases cs <;> simp [List.cons_prefix_cons, eq_comm]
    rw [dropReturns, List.infix_cons_iff, hfront]
    split
    next hc =>
      -- the text has become shorter
      refine iff_of_false (fun he => ?_) (not_not_intro (.inl hc))
      have hlen := length_dropReturns_le cs
      rw [he] at hlen
      exact absurd hlen (Nat.not_succ_le_self _)
    next hc => simp [hc, ih]

end Returns

end BootEnv.Text
