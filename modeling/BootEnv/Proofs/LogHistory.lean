import BootEnv.Report.Log
import Mathlib.Data.List.Basic
import Mathlib.Tactic.Common

/-!
# The log over the life of a process

The log may be asked for, the place may be asked for by somebody else, the variables may change and
events may be reported, any number of times and in any order. A session keeps two latches: what has the
place, and whether the log has been asked for while it was not turned off. Both can be read off the acts
so far: the place belongs to the first that took it. All this is said of any logger, so of any reading of
the directives and any form of the lines.

* `Moment`, `Session.moments`: the acts of a run with what they showed.
* `enable_cases`, `occupy_cases`: what can come of asking for the place.
* `sink_step`, `isSettled_step`, `lookup_step`: what one act does to the latches and the variables.
* `Follows`, `Follows.step`: **what a session is after some acts**, and that each act keeps it so.
* `countP_takes_moments`, `count_skipped_moments`: the place is taken once, and it is said once that it is
  taken.
* `Cut.none_before`, `Cut.skipped_iff`, `Cut.lines_of_takes`: what the acts before a moment tell of it.
* `Orderly`, `orderly_moments`: **what every run shows.**
-/

namespace BootEnv

/-- An act of a run, with the variables at that moment and what it showed. -/
structure Moment where
  lookup : Lookup
  act : Act
  effect : Effect

namespace Moment

/-- The act asked for the place and got it. -/
def takes (m : Moment) : Bool :=
  match m.act with
  | .enable | .occupy => m.effect.succeeds
  | .change _ | .report _ => false

/-- The log is asked for while it is not turned off. -/
def enables (m : Moment) : Bool :=
  match m.act with
  | .enable => Log.isEnabled m.lookup
  | .occupy | .change _ | .report _ => false

/-- What is written besides events. -/
def said (m : Moment) : List String :=
  match m.act with
  | .enable | .occupy | .change _ => m.effect.lines
  | .report _ => []

/-- What has the place when the act takes it. -/
def sink (m : Moment) : Sink :=
  match m.act with
  | .enable => .log (Log.directivesOf m.lookup)
  | .occupy | .change _ | .report _ => .foreign

theorem sink_ne_free (m : Moment) : m.sink ≠ .free := by
  unfold sink
  split <;> simp

theorem sink_of_act_ne {m : Moment} (h : m.act ≠ .enable) : m.sink = .foreign := by
  unfold sink
  cases hact : m.act with
  | enable => exact absurd hact h
  | occupy | change _ | report _ => rfl

end Moment

namespace Session

variable {w : Logger} {s : Session} {a : Act} {m : Moment} {acts : List Act} {start : Lookup}
  {past earlier later : List Moment}

/-- A process at its start: the place is free, and the log has not been asked for. -/
def fresh (lookup : Lookup) : Session := { lookup }

/-- The moment of an act. -/
def moment (s : Session) (a : Act) (w : Logger) : Moment := ⟨s.lookup, a, (s.step a w).2⟩

/-- The moments of acts, one after the other. -/
def moments (s : Session) (acts : List Act) (w : Logger) : List Moment :=
  match acts with
  | [] => []
  | a :: acts => s.moment a w :: (s.step a w).1.moments acts w

theorem map_act_moments (s : Session) (acts : List Act) (w : Logger) :
    (s.moments acts w).map Moment.act = acts := by
  induction acts generalizing s with
  | nil => rfl
  | cons a acts ih => rw [moments, List.map_cons, ih, moment]

theorem map_effect_moments (s : Session) (acts : List Act) (w : Logger) :
    (s.moments acts w).map Moment.effect = s.run acts w := by
  induction acts generalizing s with
  | nil => rfl
  | cons a acts ih => rw [moments, List.map_cons, ih, moment, run]

section Step

/-- **What comes of asking for the log**: nothing, when it has been asked for before or is turned off; else
it gets the place, or it is said that the place is taken. -/
theorem enable_cases (s : Session) (w : Logger) :
    (s.isSettled = true ∨ Log.isEnabled s.lookup = false) ∧ s.step .enable w = (s, ⟨false, []⟩) ∨
    (s.isSettled = false ∧ Log.isEnabled s.lookup = true) ∧
      (s.sink = .free ∧ s.step .enable w =
          ({ s with sink := .log (Log.directivesOf s.lookup), isSettled := true }, ⟨true, []⟩) ∨
        s.sink ≠ .free ∧ s.step .enable w = ({ s with isSettled := true }, ⟨false, [Log.skipped]⟩)) := by
  unfold step enable
  dsimp only
  split
  next h => exact .inl ⟨by simpa using h, rfl⟩
  next h =>
    refine .inr ⟨by simpa using h, ?_⟩
    split
    next hfree => exact .inl ⟨hfree, rfl⟩
    next htaken => exact .inr ⟨htaken, rfl⟩

/-- **What comes of somebody else asking for the place.** -/
theorem occupy_cases (s : Session) (w : Logger) :
    s.sink = .free ∧ s.step .occupy w = ({ s with sink := .foreign }, ⟨true, []⟩) ∨
      s.sink ≠ .free ∧ s.step .occupy w = (s, ⟨false, []⟩) := by
  unfold step occupy
  dsimp only
  split
  next hfree => exact .inl ⟨hfree, rfl⟩
  next htaken => exact .inr ⟨htaken, rfl⟩

/-- The log gets the place when it has not been asked for before, is not turned off and finds the place
free. -/
theorem succeeds_enable_iff : (s.moment .enable w).effect.succeeds = true ↔
    s.isSettled = false ∧ Log.isEnabled s.lookup = true ∧ s.sink = .free := by
  unfold moment
  rcases s.enable_cases w with ⟨h | h, heq⟩ | ⟨⟨h, h'⟩, ⟨hfree, heq⟩ | ⟨htaken, heq⟩⟩
  · simp [heq, h]
  · simp [heq, h]
  · simp [heq, h, h', hfree]
  · simp [heq, htaken]

/-- Somebody else gets the place when it is free. -/
theorem succeeds_occupy_iff : (s.moment .occupy w).effect.succeeds = true ↔ s.sink = .free := by
  unfold moment
  rcases s.occupy_cases w with ⟨hfree, heq⟩ | ⟨htaken, heq⟩
  · simp [heq, hfree]
  · simp [heq, htaken]

/-- The place is said to be taken when the log asks for it for the first time and does not get it. -/
theorem count_skipped_said (s : Session) (a : Act) (w : Logger) : (s.moment a w).said.count Log.skipped =
    if (s.moment a w).enables = true ∧ s.isSettled = false ∧ s.sink ≠ .free then 1 else 0 := by
  cases a with
  | enable =>
    unfold Moment.said Moment.enables moment
    rcases s.enable_cases w with ⟨h | h, heq⟩ | ⟨⟨h, h'⟩, ⟨hfree, heq⟩ | ⟨htaken, heq⟩⟩
    · simp [heq, h]
    · simp [heq, h]
    · simp [heq, hfree]
    · simp [heq, h, h', htaken]
  | occupy =>
    unfold Moment.said Moment.enables moment
    rcases s.occupy_cases w with ⟨-, heq⟩ | ⟨-, heq⟩ <;> simp [heq]
  | change lookup | report events => simp [Moment.said, Moment.enables, moment, step]

theorem skipped_mem_said_iff : Log.skipped ∈ (s.moment a w).said ↔
    (s.moment a w).enables = true ∧ s.isSettled = false ∧ s.sink ≠ .free := by
  rw [← List.count_pos_iff, count_skipped_said]
  split
  next h => exact iff_of_true Nat.one_pos h
  next h => exact iff_of_false (Nat.lt_irrefl 0) h

theorem takes_imp_free (h : (s.moment a w).takes = true) : s.sink = .free := by
  cases a with
  | enable => exact (succeeds_enable_iff.1 h).2.2
  | occupy => exact succeeds_occupy_iff.1 h
  | change lookup | report events => exact absurd h Bool.false_ne_true

theorem enables_of_takes (hact : (s.moment a w).act = .enable) (h : (s.moment a w).takes = true) :
    (s.moment a w).enables = true := by
  obtain rfl : a = .enable := hact
  exact (succeeds_enable_iff.1 h).2.1

/-- **What an act does to the place**: it changes hands when the act takes it. -/
theorem sink_step (s : Session) (a : Act) (w : Logger) :
    (s.step a w).1.sink = if (s.moment a w).takes then (s.moment a w).sink else s.sink := by
  cases a with
  | enable =>
    unfold Moment.takes Moment.sink moment
    rcases s.enable_cases w with ⟨-, heq⟩ | ⟨-, ⟨-, heq⟩ | ⟨-, heq⟩⟩ <;> simp [heq]
  | occupy =>
    unfold Moment.takes Moment.sink moment
    rcases s.occupy_cases w with ⟨-, heq⟩ | ⟨-, heq⟩ <;> simp [heq]
  | change lookup | report events => rfl

/-- **What an act does to the other latch**: it is set when the log is asked for and not turned off. -/
theorem isSettled_step (s : Session) (a : Act) (w : Logger) :
    (s.step a w).1.isSettled = (s.isSettled || (s.moment a w).enables) := by
  cases a with
  | enable =>
    unfold Moment.enables moment
    rcases s.enable_cases w with ⟨h | h, heq⟩ | ⟨⟨-, h⟩, ⟨-, heq⟩ | ⟨-, heq⟩⟩ <;> simp [heq, h]
  | occupy =>
    unfold Moment.enables moment
    rcases s.occupy_cases w with ⟨-, heq⟩ | ⟨-, heq⟩ <;> simp [heq]
  | change lookup | report events => simp [Moment.enables, moment, step]

/-- The variables behind an act. -/
def lookupBehind (lookup : Lookup) (m : Moment) : Lookup :=
  match m.act with
  | .change lookup' => lookup'
  | .enable | .occupy | .report _ => lookup

theorem lookup_step (s : Session) (a : Act) (w : Logger) :
    (s.step a w).1.lookup = lookupBehind s.lookup (s.moment a w) := by
  cases a with
  | enable => rcases s.enable_cases w with ⟨-, heq⟩ | ⟨-, ⟨-, heq⟩ | ⟨-, heq⟩⟩ <;> rw [heq] <;> rfl
  | occupy => rcases s.occupy_cases w with ⟨-, heq⟩ | ⟨-, heq⟩ <;> rw [heq] <;> rfl
  | change lookup | report events => rfl

end Step

section Past

/-- The variables after some acts: those of the last change. -/
def lookupAfter (start : Lookup) (past : List Moment) : Lookup := past.foldl lookupBehind start

/-- What has the place after some acts: the first that took it. -/
def sinkAfter (past : List Moment) : Sink :=
  match past.find? Moment.takes with
  | some m => m.sink
  | none => .free

theorem sinkAfter_eq_free_iff : sinkAfter past = .free ↔ ∀ e ∈ past, e.takes = false := by
  unfold sinkAfter
  cases hfind : past.find? Moment.takes with
  | none => simpa using List.find?_eq_none.1 hfind
  | some e =>
    have hmem := List.mem_of_find?_eq_some hfind
    have htakes := List.find?_some hfind
    refine iff_of_false e.sink_ne_free fun h => ?_
    exact absurd htakes (by simp [h e hmem])

theorem sinkAfter_concat (h : m.takes = true → sinkAfter past = .free) :
    sinkAfter (past ++ [m]) = if m.takes then m.sink else sinkAfter past := by
  have hfind : (past ++ [m]).find? Moment.takes =
      (past.find? Moment.takes).or (if m.takes then some m else none) := by
    rw [List.find?_append, List.find?_singleton]
  cases htakes : m.takes with
  | true =>
    have hnone : past.find? Moment.takes = none := by
      rw [List.find?_eq_none]
      intro e he
      simp [sinkAfter_eq_free_iff.1 (h htakes) e he]
    unfold sinkAfter
    rw [hfind, hnone, htakes]
    rfl
  | false =>
    unfold sinkAfter
    rw [hfind, htakes]
    simp

/-- The first that took the place has it. -/
theorem sinkAfter_of_takes (hm : m.takes = true) (h : ∀ e ∈ earlier, e.takes = false) :
    sinkAfter (earlier ++ m :: later) = m.sink := by
  have hfind : (earlier ++ m :: later).find? Moment.takes = some m :=
    List.find?_eq_some_iff_append.2 ⟨hm, earlier, later, rfl, fun e he => by simp [h e he]⟩
  unfold sinkAfter
  rw [hfind]

/-- **What a session is after some acts.** -/
structure Follows (start : Lookup) (past : List Moment) (s : Session) : Prop where
  lookup_eq : s.lookup = lookupAfter start past
  sink_eq : s.sink = sinkAfter past
  isSettled_eq : s.isSettled = past.any Moment.enables
  /-- Who asked for the log found the place taken, or took it. -/
  taken : s.isSettled = true → s.sink ≠ .free
  /-- The log took the place only while it was not turned off. -/
  enables : ∀ e ∈ past, e.act = .enable → e.takes = true → e.enables = true

theorem follows_nil (start : Lookup) : Follows start [] (fresh start) :=
  ⟨rfl, rfl, rfl, fun h => absurd h Bool.false_ne_true, fun _ he => absurd he List.not_mem_nil⟩

/-- **Each act keeps a session what it is after the acts so far.** -/
theorem Follows.step (h : Follows start past s) (a : Act) (w : Logger) :
    Follows start (past ++ [s.moment a w]) (s.step a w).1 where
  lookup_eq := by
    rw [lookup_step, h.lookup_eq, lookupAfter, lookupAfter, List.foldl_append]
    rfl
  sink_eq := by
    rw [sink_step, sinkAfter_concat fun htakes => h.sink_eq ▸ takes_imp_free htakes, h.sink_eq]
  isSettled_eq := by
    rw [isSettled_step, h.isSettled_eq, List.any_append, List.any_cons, List.any_nil, Bool.or_false]
  taken := by
    rw [isSettled_step, sink_step, Bool.or_eq_true]
    intro hsettled
    split
    next => exact (s.moment a w).sink_ne_free
    next htakes =>
      intro hfree
      rcases hsettled with hsettled | henables
      · exact h.taken hsettled hfree
      · -- the place is free, so asking for the log for the first time gets it
        have hunsettled : s.isSettled = false := by
          by_contra hsettled
          exact h.taken (by simpa using hsettled) hfree
        cases a with
        | enable => exact htakes (succeeds_enable_iff.2 ⟨hunsettled, henables, hfree⟩)
        | occupy | change _ | report _ => exact absurd henables Bool.false_ne_true
  enables := by
    intro e he hact htakes
    rcases List.mem_append.1 he with he | he
    · exact h.enables e he hact htakes
    · obtain rfl := List.mem_singleton.1 he
      exact enables_of_takes hact htakes

/-- **A moment of a run is that of a session after the acts before it.** -/
theorem exists_follows_of_moments (h : Follows start past s)
    (hsplit : s.moments acts w = earlier ++ m :: later) :
    ∃ s', Follows start (past ++ earlier) s' ∧ m = s'.moment m.act w := by
  induction earlier generalizing s acts past with
  | nil =>
    cases acts with
    | nil => exact absurd hsplit (by simp [moments])
    | cons a acts =>
      obtain ⟨rfl, -⟩ := List.cons.inj hsplit
      exact ⟨s, by rwa [List.append_nil], rfl⟩
  | cons e earlier ih =>
    cases acts with
    | nil => exact absurd hsplit (by simp [moments])
    | cons a acts =>
      obtain ⟨rfl, hrest⟩ := List.cons.inj hsplit
      obtain ⟨s', hs', hm⟩ := ih (h.step a w) hrest
      exact ⟨s', by rwa [List.append_cons], hm⟩

theorem Follows.sink_eq_free_iff (h : Follows start past s) :
    s.sink = .free ↔ ∀ e ∈ past, e.takes = false := by
  rw [h.sink_eq, sinkAfter_eq_free_iff]

theorem Follows.isSettled_eq_false_iff (h : Follows start past s) :
    s.isSettled = false ↔ ∀ e ∈ past, e.enables = false := by
  rw [h.isSettled_eq, List.any_eq_false]
  simp

/-- While the place is free nobody has asked for the log. -/
theorem Follows.isSettled_of_free (h : Follows start past s) (hfree : s.sink = .free) :
    s.isSettled = false := by
  by_contra hsettled
  exact h.taken (by simpa using hsettled) hfree

end Past

section Counts

/-- **The place is taken once**, and not again. -/
theorem countP_takes_moments (s : Session) (acts : List Act) (w : Logger) :
    (s.moments acts w).countP Moment.takes ≤ if s.sink = .free then 1 else 0 := by
  induction acts generalizing s with
  | nil => simp [moments]
  | cons a acts ih =>
    have hlater := ih (s.step a w).1
    rw [moments, List.countP_cons]
    rw [sink_step] at hlater
    cases htakes : (s.moment a w).takes with
    | true =>
      rw [htakes, if_pos rfl, if_neg (s.moment a w).sink_ne_free] at hlater
      rw [if_pos (takes_imp_free htakes), if_pos rfl]
      omega
    | false =>
      rw [htakes, if_neg Bool.false_ne_true] at hlater
      rw [if_neg Bool.false_ne_true]
      omega

/-- **It is said once that the place is taken**, and not again. -/
theorem count_skipped_moments (s : Session) (acts : List Act) (w : Logger) :
    ((s.moments acts w).flatMap Moment.said).count Log.skipped ≤ if s.isSettled then 0 else 1 := by
  induction acts generalizing s with
  | nil => simp [moments]
  | cons a acts ih =>
    have hlater := ih (s.step a w).1
    rw [moments, List.flatMap_cons, List.count_append]
    rw [isSettled_step] at hlater
    rw [count_skipped_said]
    cases hsettled : s.isSettled with
    | true =>
      rw [hsettled, Bool.true_or, if_pos rfl] at hlater
      simpa using hlater
    | false =>
      rw [hsettled, Bool.false_or] at hlater
      rw [if_neg Bool.false_ne_true]
      split
      next h =>
        rw [h.1, if_pos rfl] at hlater
        omega
      next => split at hlater <;> omega

end Counts

section Runs

theorem Follows.succeeds_enable_iff (h : Follows start past s) :
    (s.moment .enable w).effect.succeeds = true ↔
      s.lookup Log.switch ≠ some "0" ∧ ∀ e ∈ past, e.takes = false := by
  have henabled : Log.isEnabled s.lookup = true ↔ s.lookup Log.switch ≠ some "0" := by
    simp [Log.isEnabled]
  rw [Session.succeeds_enable_iff, henabled, ← h.sink_eq_free_iff]
  exact ⟨fun hs => hs.2, fun hs => ⟨h.isSettled_of_free hs.2, hs⟩⟩

/-- The place is said to be taken when only somebody else asked for it so far, and got it. -/
theorem Follows.skipped_mem_said_iff (h : Follows start past s) :
    Log.skipped ∈ (s.moment a w).said ↔ (s.moment a w).enables = true ∧
      (∀ e ∈ past, e.enables = false) ∧ ∃ o ∈ past, o.act = .occupy ∧ o.takes = true := by
  rw [Session.skipped_mem_said_iff, h.isSettled_eq_false_iff, ne_eq, h.sink_eq_free_iff]
  refine and_congr_right fun _ => and_congr_right fun hnone => ?_
  constructor
  · intro htaken
    obtain ⟨o, ho, htakes⟩ : ∃ o ∈ past, o.takes = true := by simpa using htaken
    refine ⟨o, ho, ?_, htakes⟩
    cases hact : o.act with
    | occupy => rfl
    | enable => exact absurd (h.enables o ho hact htakes) (by simp [hnone o ho])
    | change _ | report _ => simp [Moment.takes, hact] at htakes
  · rintro ⟨o, ho, -, htakes⟩ hfree
    exact absurd htakes (by simp [hfree o ho])

theorem Follows.lines_report (h : Follows start past s) (events : List Event) :
    (s.moment (.report events) w).effect.lines = Log.write w (sinkAfter past) events := by
  rw [← h.sink_eq]
  rfl

/-- Nothing is written where the log did not take the place. -/
theorem write_sinkAfter (h : ∀ i ∈ past, i.act = .enable → i.takes = false) (w : Logger)
    (events : List Event) :
    Log.write w (sinkAfter past) events = [] := by
  unfold sinkAfter
  cases hfind : past.find? Moment.takes with
  | none => rfl
  | some e =>
    have htakes : e.takes = true := List.find?_some hfind
    have hact : e.act ≠ .enable := fun hact =>
      absurd htakes (by simp [h e (List.mem_of_find?_eq_some hfind) hact])
    show Log.write w e.sink events = []
    rw [Moment.sink_of_act_ne hact]
    rfl

/-- A run of acts from the start of a process, cut at a moment. -/
def Cut (w : Logger) (start : Lookup) (acts : List Act) (earlier : List Moment) (m : Moment)
    (later : List Moment) : Prop :=
  (fresh start).moments acts w = earlier ++ m :: later

theorem Cut.exists_follows (h : Cut w start acts earlier m later) :
    ∃ s, Follows start earlier s ∧ m = s.moment m.act w := by
  simpa using exists_follows_of_moments (follows_nil start) h

/-- A moment before another is one at which the run can be cut, too. -/
theorem Cut.of_mem {e : Moment} (h : Cut w start acts earlier m later) (he : e ∈ earlier) :
    ∃ front back, earlier = front ++ e :: back ∧ Cut w start acts front e (back ++ m :: later) := by
  obtain ⟨front, back, rfl⟩ := List.append_of_mem he
  exact ⟨front, back, rfl, by simpa [Cut] using h⟩

/-- **Before the place is taken nobody took it**, and nobody asked for the log while it was not turned
off. -/
theorem Cut.none_before (h : Cut w start acts earlier m later) (htakes : m.takes = true) :
    (∀ e ∈ earlier, e.takes = false) ∧ ∀ e ∈ earlier, e.enables = false := by
  obtain ⟨s, hs, hm⟩ := h.exists_follows
  have hfree : s.sink = .free := takes_imp_free (a := m.act) (by rw [← hm, htakes])
  exact ⟨hs.sink_eq_free_iff.1 hfree, hs.isSettled_eq_false_iff.1 (hs.isSettled_of_free hfree)⟩

/-- **It is said that the place is taken** when the log is asked for, and not turned off, for the first
time after somebody else took the place. -/
theorem Cut.skipped_iff (h : Cut w start acts earlier m later) :
    Log.skipped ∈ m.said ↔ m.enables = true ∧ ∃ front o back, earlier = front ++ o :: back ∧
      o.act = .occupy ∧ o.takes = true ∧ ∀ e ∈ back, e.enables = false := by
  obtain ⟨s, hs, hm⟩ := h.exists_follows
  rw [hm, hs.skipped_mem_said_iff]
  refine and_congr_right fun _ => ⟨?_, ?_⟩
  · rintro ⟨hnone, o, ho, hact, htakes⟩
    obtain ⟨front, back, rfl⟩ := List.append_of_mem ho
    exact ⟨front, o, back, rfl, hact, htakes, fun e he => hnone e (by simp [he])⟩
  · rintro ⟨front, o, back, rfl, hact, htakes, hback⟩
    have hcut : Cut w start acts front o (back ++ m :: later) := by simpa [Cut] using h
    refine ⟨fun e he => ?_, o, by simp, hact, htakes⟩
    rcases List.mem_append.1 he with he | he
    · exact (hcut.none_before htakes).2 e he
    · rcases List.mem_cons.1 he with rfl | he
      · simp [Moment.enables, hact]
      · exact hback e he

/-- **Events go through the filter of the moment at which the log took the place.** -/
theorem Cut.lines_of_takes (h : Cut w start acts earlier m later) {events : List Event}
    (hact : m.act = .report events) {i : Moment} (hi : i ∈ earlier) (hiact : i.act = .enable)
    (htakes : i.takes = true) :
    m.effect.lines =
        (events.filter (w.shows ((i.lookup "RUST_LOG").getD "warn"))).flatMap w.write := by
  obtain ⟨s, hs, hm⟩ := h.exists_follows
  obtain ⟨front, back, rfl, hcut⟩ := h.of_mem hi
  rw [hm, hact, hs.lines_report, sinkAfter_of_takes htakes (hcut.none_before htakes).1, Moment.sink,
    hiact]
  rfl

/-- **What the acts of a process show**, in whatever order they come. -/
structure Orderly (w : Logger) (start : Lookup) (acts : List Act) : Prop where
  /-- The variables are those of the last change. -/
  lookup_eq : ∀ earlier m later, Cut w start acts earlier m later →
    m.lookup = lookupAfter start earlier
  /-- The place is taken at most once. -/
  takes_once : ((fresh start).moments acts w).countP Moment.takes ≤ 1
  /-- The log gets the place when it is not turned off at that moment and nobody took the place. -/
  enable_iff : ∀ earlier m later, Cut w start acts earlier m later → m.act = .enable →
    (m.effect.succeeds = true ↔
      m.lookup "CLOUDINIT_ENV_TRACING_FMT" ≠ some "0" ∧ ∀ e ∈ earlier, e.takes = false)
  /-- Somebody else gets it when nobody took it. -/
  occupy_iff : ∀ earlier m later, Cut w start acts earlier m later → m.act = .occupy →
    (m.effect.succeeds = true ↔ ∀ e ∈ earlier, e.takes = false)
  /-- It is said at most once that the place is taken. -/
  skipped_once : (((fresh start).moments acts w).flatMap Moment.said).count
    "cloudinit-env: tracing init skipped (global subscriber already set)" ≤ 1
  /-- It is said when the log is asked for, and not turned off, for the first time after somebody else
  took the place. -/
  skipped_iff : ∀ earlier m later, Cut w start acts earlier m later →
    ("cloudinit-env: tracing init skipped (global subscriber already set)" ∈ m.said ↔
      m.enables = true ∧ ∃ front o back, earlier = front ++ o :: back ∧
        o.act = .occupy ∧ o.takes = true ∧ ∀ e ∈ back, e.enables = false)
  /-- Of events, those of a build as any others, the log writes the ones that its logger lets through
  under the directives given at the moment at which it took the place. -/
  lines_of_takes : ∀ earlier m later, Cut w start acts earlier m later →
    ∀ events, m.act = .report events → ∀ i ∈ earlier, i.act = .enable → i.takes = true →
      m.effect.lines =
        (events.filter (w.shows ((i.lookup "RUST_LOG").getD "warn"))).flatMap w.write
  /-- Without such a moment nothing is written of them. -/
  lines_of_not_takes : ∀ earlier m later, Cut w start acts earlier m later →
    ∀ events, m.act = .report events → (∀ i ∈ earlier, i.act = .enable → i.takes = false) →
      m.effect.lines = []

/-- **What every run shows**, from the start of a process and with any logger. -/
theorem orderly_moments (w : Logger) (start : Lookup) (acts : List Act) :
    ((fresh start).moments acts w).map Moment.act = acts ∧
      ((fresh start).moments acts w).map Moment.effect = (fresh start).run acts w ∧
      Orderly w start acts := by
  refine ⟨map_act_moments _ _ _, map_effect_moments _ _ _, ?_, countP_takes_moments _ _ _, ?_, ?_,
    count_skipped_moments _ _ _, fun _ _ _ h => h.skipped_iff,
    fun _ _ _ h _ hact _ hi hiact htakes => h.lines_of_takes hact hi hiact htakes, ?_⟩
  · intro earlier m later h
    obtain ⟨s, hs, hm⟩ := h.exists_follows
    rw [hm]
    exact hs.lookup_eq
  · intro earlier m later h hact
    obtain ⟨s, hs, hm⟩ := h.exists_follows
    rw [hm, hact]
    exact hs.succeeds_enable_iff
  · intro earlier m later h hact
    obtain ⟨s, hs, hm⟩ := h.exists_follows
    rw [hm, hact, succeeds_occupy_iff, hs.sink_eq_free_iff]
  · intro earlier m later h events hact hnone
    obtain ⟨s, hs, hm⟩ := h.exists_follows
    rw [hm, hact, hs.lines_report, write_sinkAfter hnone]

/-- Variables that give the directives and nothing else. -/
def withDirectives (directives : String) : Lookup := fun name =>
  if name = "RUST_LOG" then some directives else none

/-- The log is asked for while it is turned off and again with directives, which then change. -/
def latched : List Act :=
  [.enable, .change (withDirectives "cloudinit_env::environment=info"), .enable, .occupy,
    .change (withDirectives "off"), .report [.noDefaultRoute, .surveyStarted]]

/-- What was given when the log took the place chooses the events, not what is given later. -/
theorem orderly_moments_latched :
    ∃ earlier m, Cut .plain (fun _ => some "0") latched earlier m [] ∧
      m.lookup "RUST_LOG" = some "off" ∧
      m.effect.lines = ["INFO cloudinit_env::environment: fetching network interfaces info"] := by
  let given := withDirectives "cloudinit_env::environment=info"
  have hcut : Cut .plain (fun _ => some "0") latched
      [⟨fun _ => some "0", .enable, ⟨false, []⟩⟩, ⟨fun _ => some "0", .change given, ⟨true, []⟩⟩,
        ⟨given, .enable, ⟨true, []⟩⟩, ⟨given, .occupy, ⟨false, []⟩⟩,
        ⟨given, .change (withDirectives "off"), ⟨true, []⟩⟩] _ [] := rfl
  have hlines := (orderly_moments _ _ _).2.2.lines_of_takes _ _ _ hcut _ rfl
    ⟨given, .enable, ⟨true, []⟩⟩ (by simp) rfl rfl
  refine ⟨_, _, hcut, rfl, hlines.trans ?_⟩
  decide +kernel

/-- A log that is turned off leaves the way open, and one that is not says once that it came too late. -/
example : (fresh fun _ => some "0").run
    [.enable, .occupy, .enable, .change Lookup.unset, .enable, .enable] .plain =
      [⟨false, []⟩, ⟨true, []⟩, ⟨false, []⟩, ⟨true, []⟩, ⟨false, [Log.skipped]⟩, ⟨false, []⟩] := by
  decide

end Runs

end Session

end BootEnv
