/-!
# Variables of a process

What a process is told by its surroundings: texts under names. A variable that is not set has no
text.

* `Lookup.unset`: no variable is set.
-/

namespace BootEnv

/-- The texts of variables by their names. -/
abbrev Lookup := String → Option String

/-- The lookup without any variable. -/
def Lookup.unset : Lookup := fun _ => none

end BootEnv
