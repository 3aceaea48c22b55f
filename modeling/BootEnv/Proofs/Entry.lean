import BootEnv.Proofs.Build
import BootEnv.Proofs.Projection

/-!
# How the entries of a built table are named

The variable of an entry tells its token: a well-known variable has its own token, any other variable
starts with `IFACE_` and the token is its lower case behind a dollar sign.

* `Named`: what ties a token to its variable.
* `named_build`: **every entry of a built table is named so.**
* `apart_build`: **no two tokens of a built table share a variable.**
* `head?_of_mem_build`: every token starts with a dollar sign.
-/

namespace BootEnv

/-- What ties a token to the variable of its entry. -/
inductive Named : String → String → Prop
  /-- A well-known token has its own variable. -/
  | wellKnown (w : WellKnown) : Named w.token w.variableName
  /-- Any other token is the lower case of its variable. -/
  | address (cs : List Char) :
      Named (String.ofList ('$' :: Text.lower ("IFACE_".toList ++ cs)))
        (String.ofList ("IFACE_".toList ++ cs))

namespace Named

variable {k k' name name' : String}

/-- No other variable is a well-known one. -/
theorem address_ne_wellKnown (w : WellKnown) (cs : List Char) :
    String.ofList ("IFACE_".toList ++ cs) ≠ w.variableName := by
  intro h
  have htake := congrArg (fun s => s.toList.take 1) h
  cases w <;> simp [WellKnown.variableName] at htake

/-- **A variable belongs to one token.** -/
theorem inj (h : Named k name) (h' : Named k' name') (hn : name = name') : k = k' := by
  cases h with
  | wellKnown w =>
    cases h' with
    -- four variables and four tokens: all pairs are looked at
    | wellKnown w' =>
      have hw : w = w' := by
        revert hn
        cases w <;> cases w' <;> decide
      rw [hw]
    | address cs => exact absurd hn.symm (address_ne_wellKnown w cs)
  | address cs =>
    cases h' with
    | wellKnown w => exact absurd hn (address_ne_wellKnown w cs)
    | address cs' => rw [String.ofList_injective hn]

theorem head? (h : Named k name) : k.toList.head? = some '$' := by
  cases h with
  | wellKnown w => cases w <;> decide
  | address cs => rw [String.toList_ofList, List.head?_cons]

end Named

variable {m : Metadata} {h : Host} {lookup : Lookup} {k : String} {e : Entry}

theorem named_token (i : Interface) (f : Family) (n : Nat) :
    Named (i.token f n) (i.variableName f n) := by
  have hv : addressVariable i.name.toList f n =
      "IFACE_".toList ++ (stem i.name.toList ++ '_' :: f.label ++ numberSuffix n) := by
    unfold addressVariable
    simp only [List.append_assoc]
  unfold Interface.token Interface.variableName
  rw [← addressToken_eq_spelling, addressToken, hv]
  exact .address _

theorem named_defaultToken : Named defaultToken defaultVariable := by
  have ht : defaultToken =
      String.ofList ('$' :: Text.lower ("IFACE_".toList ++ "DEFAULT_IPV4".toList)) := by
    decide +kernel
  rw [ht]
  exact .address "DEFAULT_IPV4".toList

/-- **Every entry of a built table is named by its token.** -/
theorem named_build (he : (Table.build m h lookup).value[k]? = some e) : Named k e.name := by
  rcases build_cases he with ⟨w, rfl, rfl⟩ | ⟨i, -, f, n, a, -, rfl, rfl⟩ | ⟨a, -, rfl, rfl⟩
  · exact .wellKnown w
  · exact named_token i f n
  · exact named_defaultToken

/-- **No two tokens of a built table share a variable.** -/
theorem apart_build (m : Metadata) (h : Host) (lookup : Lookup) :
    (Table.build m h lookup).value.Apart :=
  fun _ _ _ _ he he' hn => (named_build he).inj (named_build he') hn

/-- Every token of a built table starts with a dollar sign. -/
theorem head?_of_mem_build (hk : k ∈ (Table.build m h lookup).value) :
    k.toList.head? = some '$' :=
  (named_build (Std.ExtTreeMap.getElem?_eq_some_getElem hk)).head?

end BootEnv
