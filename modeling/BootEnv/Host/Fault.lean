import BootEnv.Host.SystemError

/-!
# Host faults

Why the state of the host could not be read. A fault never ends a run: it is reported and the
answer is taken as empty.

* `Fault.message`: what is shown.
* `Fault.source?`: the text of the underlying error; a bare message has none.
-/

namespace BootEnv

/-- A failure to read the host's network state. -/
inductive Fault where
  /-- A failure with nothing to say but its text. -/
  | message (text : String)
  /-- A failed input or output operation with a text of its own. -/
  | io (text : String)
  /-- A failed input or output operation, by its system error number. -/
  | system (code : Int)
  /-- A failed system call, by its error number. -/
  | call (code : Int)
  deriving Repr, DecidableEq

namespace Fault

/-- The text shown for a fault. -/
def text : Fault → String
  | message t => t
  | io t => t
  | system code => SystemError.describe code ++ " (os error " ++ toString code ++ ")"
  | call code => SystemError.nameAndText code

/-- The text of the error behind a fault, if there is one. -/
def source? : Fault → Option String
  | message _ => none
  | f => some f.text

end Fault

end BootEnv
