import BootEnv.Report.Event

/-!
# Reported values

A value together with the events reported on the way to it, in order. Reporting never changes a
value, and a value never depends on what was reported.

* `value_bind`, `events_bind`: **the value of a sequence is that of its parts, and its events are
  theirs one after the other.**
-/

namespace BootEnv

/-- A value and the events reported while it was found. -/
structure Reported (α : Type) where
  value : α
  events : List Event
  deriving Repr, DecidableEq

namespace Reported

instance : Monad Reported where
  pure x := ⟨x, []⟩
  bind x f := ⟨(f x.value).value, x.events ++ (f x.value).events⟩

/-- Reports one event. -/
def report (e : Event) : Reported Unit := ⟨(), [e]⟩

/-- Reports several events. -/
def reportAll (es : List Event) : Reported Unit := ⟨(), es⟩

variable {α β : Type}

@[simp] theorem value_pure (x : α) : (pure x : Reported α).value = x := rfl

@[simp] theorem events_pure (x : α) : (pure x : Reported α).events = [] := rfl

@[simp] theorem value_bind (x : Reported α) (f : α → Reported β) :
    (x >>= f).value = (f x.value).value := rfl

@[simp] theorem events_bind (x : Reported α) (f : α → Reported β) :
    (x >>= f).events = x.events ++ (f x.value).events := rfl

@[simp] theorem events_report (e : Event) : (report e).events = [e] := rfl

@[simp] theorem events_reportAll (es : List Event) : (reportAll es).events = es := rfl

end Reported

end BootEnv
