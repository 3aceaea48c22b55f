/-!
# Runs of case mappings

Case mappings come in runs: characters at a fixed distance from one another whose images lie at
one shift from them. A table is a list of runs and a list of exceptions whose image is longer than
one character.

* `CaseRun.image`: the image of a character under a table of runs.
-/

namespace BootEnv.Text

/-- The code points `first`, `first + step`, …, `last`, each mapped `shift` further. -/
structure CaseRun where
  first : Nat
  last : Nat
  step : Nat
  shift : Int
  deriving Repr, DecidableEq

/-- The run holds the code point `n`. -/
def CaseRun.covers (r : CaseRun) (n : Nat) : Bool :=
  r.first ≤ n && n ≤ r.last && (n - r.first) % r.step == 0

/-- The image of a character: an exception's if it is one, else its run's, else itself. -/
def CaseRun.image (runs : List CaseRun) (expansions : List (Nat × List Nat)) (c : Char) :
    List Char :=
  match expansions.lookup c.toNat with
  | some codes => codes.map Char.ofNat
  | none =>
    match runs.find? (·.covers c.toNat) with
    | some r => [Char.ofNat (c.toNat + r.shift).toNat]
    | none => [c]

end BootEnv.Text
