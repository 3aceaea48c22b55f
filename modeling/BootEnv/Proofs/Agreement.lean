import BootEnv.Environment
import BootEnv.Proofs.Entry
import BootEnv.Proofs.Substitution

/-!
# The two readings of a table

An environment reads its table in two ways: it substitutes the tokens of a text, and it writes the
values to an environment file under the names of the variables.

* `Environment.Agrees`: what a token is replaced by is what its variable is set to, and no variable
  is lost or made up.
* `dollar_of_occursAt`: where a token of a built table occurs there is a dollar sign.
* `agrees_build`: an environment that was just built agrees.
* `agrees_foldl_setKeyName`: **it still does under any sequence of key names.**
-/

namespace BootEnv

/-- **Substitution and environment file agree.** -/
structure Environment.Agrees (e : Environment) : Prop where
  /-- A token gives way to the value of its entry. -/
  apply_eq_value : ∀ (k : String) (r : Entry), e.table[k]? = some r → e.apply k = r.value
  /-- A token behind a backslash stays. -/
  apply_escaped_eq : ∀ (k : String) (r : Entry), e.table[k]? = some r → e.apply ("\\" ++ k) = k
  /-- A text without a dollar sign stays. -/
  apply_eq_self : ∀ text : String, '$' ∉ text.toList → e.apply text = text
  /-- There is a file unless all values are empty. -/
  envFile?_eq_none_iff :
    e.envFile? = none ↔ ∀ (k : String) (r : Entry), e.table[k]? = some r → r.value = ""
  /-- The file sets the variable of an entry to its value, and leaves it out when that is empty. -/
  vars_eq_value : ∀ f, e.envFile? = some f → ∀ (k : String) (r : Entry), e.table[k]? = some r →
    f.vars[r.name]? = if r.value = "" then none else some r.value
  /-- The file sets no other variable. -/
  mem_vars : ∀ f, e.envFile? = some f → ∀ name ∈ f.vars,
    ∃ (k : String) (r : Entry), e.table[k]? = some r ∧ r.name = name
  /-- The file has a variable for each value that is not empty. -/
  size_vars : ∀ f, e.envFile? = some f →
    f.vars.size = (e.table.toList.filter fun r => r.2.value ≠ "").length
  /-- No two tokens share a variable. -/
  apart : e.table.Apart

variable {m : Metadata} {h : Host} {lookup : Lookup} {k : String}

/-- **Where a token of a built table occurs there is a dollar sign.** -/
theorem dollar_of_occursAt {x text : List Char} {i : Nat}
    (hx : x ∈ (Table.build m h lookup).value.tokens) (hocc : OccursAt x text i) :
    text[i]? = some '$' := by
  have hhead : x.head? = some '$' := by
    have hd := head?_of_mem_build hx
    rwa [String.toList_ofList] at hd
  obtain ⟨y, x, rfl⟩ := List.exists_cons_of_ne_nil hocc.1
  obtain rfl : y = '$' := by simpa using hhead
  obtain ⟨rest, hr⟩ := hocc.2
  have hget := congrArg (fun l => l[0]?) hr
  simpa using hget.symm

theorem ne_empty_of_mem_build (hk : k ∈ (Table.build m h lookup).value) : k ≠ "" := by
  rintro rfl
  exact absurd (head?_of_mem_build hk) (by simp)

/-- A built table keeps a token of its own behind a backslash. -/
theorem apply_escaped_build (hk : k ∈ (Table.build m h lookup).value) :
    (Table.build m h lookup).value.apply ("\\" ++ k) = k := by
  refine apply_escaped (ne_empty_of_mem_build hk) hk fun x hx hocc => ?_
  -- the sign in front of the token is no dollar sign
  have hget := dollar_of_occursAt hx hocc
  simp [Substitution.escape] at hget

/-- A built table leaves a text without a dollar sign as it is. -/
theorem apply_build_of_notMem {text : String} (ht : '$' ∉ text.toList) :
    (Table.build m h lookup).value.apply text = text := by
  refine apply_of_forall_not fun i _ x hx hocc => ht ?_
  exact List.mem_of_getElem? (dollar_of_occursAt hx hocc)

namespace Environment

variable {e : Environment}

/-- An environment that was just built agrees. -/
theorem agrees_build (root configRoot workspacePath : Path) (keyName : String) (m : Metadata)
    (h : Host) (lookup : Lookup) :
    (build root configRoot workspacePath keyName m h lookup).value.Agrees := by
  have htable : (build root configRoot workspacePath keyName m h lookup).value.table =
      (Table.build m h lookup).value := rfl
  generalize (build root configRoot workspacePath keyName m h lookup).value = e at htable
  have hapart : e.table.Apart := htable ▸ apart_build m h lookup
  have hmem : ∀ {k : String} {r : Entry}, e.table[k]? = some r →
      k ∈ (Table.build m h lookup).value := by
    intro k r hr
    rw [← htable]
    exact (Std.ExtTreeMap.getElem?_eq_some_iff.1 hr).1
  refine ⟨?_, ?_, ?_, EnvFile.ofTable?_eq_none_iff, ?_, ?_, ?_, hapart⟩
  · intro k r hr
    exact apply_token (ne_empty_of_mem_build (hmem hr)) hr
  · intro k r hr
    show e.table.apply ("\\" ++ k) = k
    rw [htable]
    exact apply_escaped_build (hmem hr)
  · intro text ht
    show e.table.apply text = text
    rw [htable]
    exact apply_build_of_notMem ht
  · intro f hf k r hr
    rw [EnvFile.vars_of_ofTable? hf]
    exact EnvFile.getElem?_variablesOf hapart hr
  · intro f hf name hn
    rw [EnvFile.vars_of_ofTable? hf] at hn
    obtain ⟨k, r, hr, -, hname⟩ := EnvFile.mem_variablesOf.1 hn
    exact ⟨k, r, hr, hname⟩
  · intro f hf
    rw [EnvFile.vars_of_ofTable? hf]
    exact EnvFile.size_variablesOf hapart

/-- Another key name changes nothing that is read off the table. -/
theorem Agrees.setKeyName (he : e.Agrees) (name : String) : (e.setKeyName name).Agrees :=
  ⟨he.apply_eq_value, he.apply_escaped_eq, he.apply_eq_self, he.envFile?_eq_none_iff,
    he.vars_eq_value, he.mem_vars, he.size_vars, he.apart⟩

/-- **An environment agrees from the time it is built**, whatever key names it is given. -/
theorem agrees_foldl_setKeyName (root configRoot workspacePath : Path) (keyName : String)
    (m : Metadata) (h : Host) (lookup : Lookup) (names : List String) :
    (names.foldl Environment.setKeyName
      (build root configRoot workspacePath keyName m h lookup).value).Agrees := by
  have hbuild := agrees_build root configRoot workspacePath keyName m h lookup
  generalize (build root configRoot workspacePath keyName m h lookup).value = e at hbuild
  induction names generalizing e with
  | nil => exact hbuild
  | cons name names ih => exact ih _ (hbuild.setKeyName name)

end Environment

end BootEnv
