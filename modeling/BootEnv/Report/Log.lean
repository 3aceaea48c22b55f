import BootEnv.Lookup
import BootEnv.Report.Logger

/-!
# The log

Where events go. A process has one place for a sink, and it is filled once: with the log of this
library, whose logger writes lines, or with a sink of somebody else, of which nothing is seen. The
directives that choose the events are read when the log takes the place. Finding the place taken by
somebody else is said once, and nothing is tried again after that.

* `Session.step`: one act, and what it shows.
* `Session.run`: acts one after the other.
-/

namespace BootEnv

/-- Where events go. -/
inductive Sink where
  /-- Nowhere: the place is free. -/
  | free
  /-- To somebody else. -/
  | foreign
  /-- To the log, as far as the directives let them through. -/
  | log (directives : String)
  deriving Repr, DecidableEq

namespace Log

/-- The variable that turns the log off. -/
def switch : String := "CLOUDINIT_ENV_TRACING_FMT"

/-- The variable with the directives. -/
def directivesVariable : String := "RUST_LOG"

/-- The directives unless others are given. -/
def defaultDirectives : String := "warn"

/-- The log is not turned off. -/
def isEnabled (lookup : Lookup) : Bool := lookup switch != some "0"

/-- The directives that the variables give. -/
def directivesOf (lookup : Lookup) : String := (lookup directivesVariable).getD defaultDirectives

/-- What is said when somebody else has taken the place. -/
def skipped : String := "cloudinit-env: tracing init skipped (global subscriber already set)"

/-- What is written of events. -/
def write (logger : Logger) (s : Sink) (events : List Event) : List String :=
  match s with
  | .log directives => (events.filter (logger.shows directives)).flatMap logger.write
  | .free | .foreign => []

end Log

/-- The log of a process, and its variables. -/
structure Session where
  sink : Sink := .free
  /-- The log has been asked for, while it was not turned off. -/
  isSettled : Bool := false
  lookup : Lookup

/-- What can be done about the log. -/
inductive Act where
  /-- The log asks for the place. -/
  | enable
  /-- Somebody else asks for the place. -/
  | occupy
  /-- The variables change. -/
  | change (lookup : Lookup)
  /-- Events are reported. -/
  | report (events : List Event)

/-- What an act shows: whether it got what it asked for, and what is written. -/
structure Effect where
  succeeds : Bool
  lines : List String := []
  deriving Repr, DecidableEq

namespace Session

/-- The log asks for the place. -/
def enable (s : Session) : Session × Effect :=
  if s.isSettled || !Log.isEnabled s.lookup then (s, ⟨false, []⟩)
  else
    match s.sink with
    | .free => ({ s with sink := .log (Log.directivesOf s.lookup), isSettled := true }, ⟨true, []⟩)
    | _ => ({ s with isSettled := true }, ⟨false, [Log.skipped]⟩)

/-- Somebody else asks for the place. -/
def occupy (s : Session) : Session × Effect :=
  match s.sink with
  | .free => ({ s with sink := .foreign }, ⟨true, []⟩)
  | _ => (s, ⟨false, []⟩)

/-- One act: the session behind it, and what it shows. -/
def step (s : Session) (a : Act) (logger : Logger := .plain) : Session × Effect :=
  match a with
  | .enable => s.enable
  | .occupy => s.occupy
  | .change lookup => ({ s with lookup }, ⟨true, []⟩)
  | .report events => (s, ⟨true, Log.write logger s.sink events⟩)

/-- What acts show, one after the other. -/
def run (s : Session) (acts : List Act) (logger : Logger) : List Effect :=
  match acts with
  | [] => []
  | a :: acts => (s.step a logger).2 :: (s.step a logger).1.run acts logger

end Session

end BootEnv
