import BootEnv.Report.Event
import BootEnv.Text.Segment

/-!
# Filters of levels and targets

Which events a list of directives lets through. Directives stand between commas. A level alone is a rule
for every target, `target=level` one for all targets that start with the given text; a target without a
level is shown at every level. Anything else is no directive and is passed over. Of the rules for a target
the one with the longest text decides, and of several with one text the last. Without a rule for its
target an event is not shown.

* `Filter.ofText`: the filter that a text describes; without any rule, only errors are shown.
* `Filter.shows`: whether an event is shown.
-/

namespace BootEnv

/-- The rule that events whose target starts with a text are shown up to a level, or not at all. -/
structure FilterRule where
  target : List Char
  level : Option Level
  deriving Repr, DecidableEq

/-- Rules, in the order in which they are given. -/
structure Filter where
  rules : List FilterRule
  deriving Repr, DecidableEq

namespace Level

/-- All levels, the gravest first. -/
def all : List Level := [error, warn, info, debug, trace]

/-- The level that a text names, in any case or by its digit; `some none` for no level at all. -/
def ofText? (cs : List Char) : Option (Option Level) :=
  let word := cs.map Char.toUpper
  if word = "OFF".toList ∨ word = ['0'] then some none
  else (all.find? fun l => word = l.name.toList ∨ word = [Nat.digitChar (l.rank + 1)]).map some

end Level

namespace FilterRule

/-- A character of the name of a target. -/
def isTargetChar (c : Char) : Bool := c.isAlphanum || ['_', ':', '-'].contains c

/-- The rule for a target, unless the text cannot be the name of one. -/
def ofTarget? (target : List Char) (level : Option Level) : Option FilterRule :=
  if target.isEmpty || !target.all isTargetChar then none else some ⟨target, level⟩

/-- The rule that a directive gives. -/
def ofText? (cs : List Char) : Option FilterRule :=
  match Text.cutAt? '=' cs with
  | some (target, []) => ofTarget? target (some .trace)
  | some (target, level) => (Level.ofText? level).bind (ofTarget? target)
  | none =>
    match Level.ofText? cs with
    | some level => some ⟨[], level⟩
    | none => ofTarget? cs (some .trace)

/-- The rule is for the given target. -/
def applies (r : FilterRule) (target : List Char) : Bool := r.target.isPrefixOf target

end FilterRule

namespace Filter

/-- The filter that shows errors only. -/
def errors : Filter := ⟨[⟨[], some .error⟩]⟩

/-- The filter that a text describes. -/
def ofText (text : String) : Filter :=
  let pieces := (Text.segments (· == ',') text.toList).filter fun piece => !piece.isEmpty
  let rules := pieces.filterMap FilterRule.ofText?
  if rules.isEmpty then errors else ⟨rules⟩

/-- The better of two rules for a target: the later one, unless its text is shorter. -/
def prefer (best : Option FilterRule) (r : FilterRule) : Option FilterRule :=
  match best with
  | some b => if b.target.length ≤ r.target.length then some r else some b
  | none => some r

/-- The rule that decides about a target. -/
def rule? (f : Filter) (target : List Char) : Option FilterRule :=
  (f.rules.filter (·.applies target)).foldl prefer none

/-- The filter shows an event. -/
def shows (f : Filter) (e : Event) : Bool :=
  match f.rule? e.target.toList with
  | some ⟨_, some level⟩ => e.level.rank ≤ level.rank
  | _ => false

end Filter

end BootEnv
