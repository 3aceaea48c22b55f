import BootEnv.Proofs.Naming
import BootEnv.Token.Table

/-!
# What an interface adds to a table

The readings of an interface count up in each family on their own: an address that cannot be read
takes no number, and the number of any other is its place among the addresses of its family.

* `mem_readings`: **the address with number `n` is the `n`-th one of its family.**
* `mem_rows_iff`: the rows of an interface, one for each of its addresses, and those that set the
  default token.
* `Interface.Carries`: the interface has an address with the given token.
* `rows_agree`: two rows of an interface with one token are the same.
* `accepted_eq`, `spelledToken_eq`, `spelledVariable_eq`: **its addresses and their names, written
  out**.
-/

namespace BootEnv

namespace Interface

variable {i : Interface} {a : Address} {f : Family} {n : Nat} {d : String}

/-- The token of the `n`-th address of a family. -/
def token (i : Interface) (f : Family) (n : Nat) : String :=
  String.ofList (tokenSpelling i.name.toList f n)

/-- The variable of the `n`-th address of a family. -/
def variableName (i : Interface) (f : Family) (n : Nat) : String :=
  String.ofList (addressVariable i.name.toList f n)

theorem row_eq (i : Interface) (a : Address) (n : Nat) :
    i.row a n = (i.token a.family n, ⟨i.variableName a.family n, String.ofList a.print⟩) := by
  unfold row token variableName
  rw [addressToken_eq_spelling]

theorem family_of_mem_addressesOf (h : a ∈ i.addressesOf f) : a.family = f := by
  unfold addressesOf at h
  simpa using (List.mem_filter.1 h).2

/-- **The numbers of a family start at what was seen and go up by one with each address of it.** -/
theorem mem_readingsFrom {seen : Family → Nat} {texts : List String} :
    Reading.found a n ∈ readingsFrom seen texts ↔
      ∃ m, n = seen a.family + m ∧
        ((texts.filterMap addressOf?).filter (·.family = a.family))[m]? = some a := by
  induction texts generalizing seen with
  | nil => simp [readingsFrom]
  | cons text rest ih =>
    unfold readingsFrom
    cases hb : addressOf? text with
    | none =>
      simp only [List.mem_cons, reduceCtorEq, false_or, List.filterMap_cons_none hb]
      exact ih
    | some b =>
      simp only [List.mem_cons, Reading.found.injEq, List.filterMap_cons_some hb]
      rw [ih]
      by_cases hf : b.family = a.family
      -- an address of the family takes the number that is due, and those behind it go up by one
      · rw [List.filter_cons_of_pos (by simpa using hf), hf]
        simp only [if_true]
        constructor
        · rintro (⟨rfl, rfl⟩ | ⟨m, rfl, hm⟩)
          · exact ⟨0, rfl, rfl⟩
          · exact ⟨m + 1, by omega, hm⟩
        · rintro ⟨m, rfl, hm⟩
          cases m with
          | zero => exact .inl ⟨(Option.some.inj hm).symm, rfl⟩
          | succ m => exact .inr ⟨m, by omega, hm⟩
      · rw [List.filter_cons_of_neg (by simpa using hf)]
        have hab : ¬ (a = b ∧ n = seen b.family) := fun h => hf (h.1 ▸ rfl)
        simp only [hab, false_or, if_neg (Ne.symm hf)]

/-- **The address with number `n` is the `n`-th readable one of its family.** -/
theorem mem_readings : Reading.found a n ∈ i.readings ↔ (i.addressesOf a.family)[n]? = some a := by
  unfold readings addressesOf
  rw [mem_readingsFrom]
  simp

/-- The rows that one reading of an interface adds. -/
def rowsOf (i : Interface) (d : String) : Reading → List (String × Entry)
  | .unreadable _ => []
  | .found a n => i.row a n :: if a.family = .v4 ∧ d ≠ "" ∧ i.name = d then [defaultRow a] else []

theorem rows_eq_flatMap (i : Interface) (d : String) : i.rows d = i.readings.flatMap (i.rowsOf d) :=
  congrArg (List.flatMap · i.readings) (funext fun reading => by cases reading <;> rfl)

/-- The rows of an interface: one for each address, and the default ones. -/
theorem mem_rows_iff {r : String × Entry} :
    r ∈ i.rows d ↔ ∃ a n, (i.addressesOf a.family)[n]? = some a ∧
      (r = i.row a n ∨ (a.family = .v4 ∧ d ≠ "" ∧ i.name = d) ∧ r = defaultRow a) := by
  unfold rows
  rw [List.mem_flatMap]
  constructor
  · rintro ⟨reading, hreading, hr⟩
    cases reading with
    | unreadable text => simp at hr
    | found a n =>
      refine ⟨a, n, mem_readings.1 hreading, ?_⟩
      simp only [List.mem_cons] at hr
      rcases hr with hr | hr
      · exact .inl hr
      · split at hr
        next hd => exact .inr ⟨hd, List.mem_singleton.1 hr⟩
        · simp at hr
  · rintro ⟨a, n, hn, hr⟩
    refine ⟨.found a n, mem_readings.2 hn, ?_⟩
    rcases hr with rfl | ⟨hd, rfl⟩
    · exact List.mem_cons_self
    · simp only [if_pos hd, List.mem_cons, List.mem_nil_iff, or_false, or_true]

/-- The interface has an address with the token `k`. -/
def Carries (i : Interface) (k : String) : Prop :=
  ∃ f n, n < (i.addressesOf f).length ∧ k = i.token f n

theorem carries_of_getElem? (h : (i.addressesOf f)[n]? = some a) : i.Carries (i.token f n) :=
  ⟨f, n, (List.getElem?_eq_some_iff.1 h).1, rfl⟩

/-- A token that an interface carries is in its rows. -/
theorem exists_row_of_carries {k : String} (h : i.Carries k) (d : String) :
    ∃ e, (k, e) ∈ i.rows d := by
  obtain ⟨f, n, hn, rfl⟩ := h
  have hget : (i.addressesOf f)[n]? = some (i.addressesOf f)[n] := List.getElem?_eq_getElem hn
  have hf := family_of_mem_addressesOf (List.getElem_mem hn)
  refine ⟨(i.row (i.addressesOf f)[n] n).2, mem_rows_iff.2 ⟨(i.addressesOf f)[n], n, ?_, .inl ?_⟩⟩
  · rw [hf, hget]
  · rw [row_eq, hf]

/-- But for the default token, the rows of an interface are those of its addresses. -/
theorem mem_rows_of_ne {k : String} {e : Entry} (hk : k ≠ defaultToken) (h : (k, e) ∈ i.rows d) :
    ∃ f n a, (i.addressesOf f)[n]? = some a ∧ k = i.token f n ∧
      e = ⟨i.variableName f n, String.ofList a.print⟩ := by
  obtain ⟨a, n, hn, hr | ⟨-, hr⟩⟩ := mem_rows_iff.1 h
  · rw [row_eq, Prod.mk.injEq] at hr
    exact ⟨a.family, n, a, hn, hr⟩
  · unfold defaultRow at hr
    rw [Prod.mk.injEq] at hr
    exact absurd hr.1 hk

/-- Within an interface a token tells the family and the number. -/
theorem token_inj {j : Interface} {g : Family} {m : Nat} (h : i.token f n = j.token g m) :
    f = g ∧ n = m := by
  unfold token at h
  exact (tokenSpelling_inj.1 (String.ofList_injective h)).2

/-- **Two rows of an interface with one token are the same**, but for the default token. -/
theorem rows_agree {k : String} {e e' : Entry} (hk : k ≠ defaultToken) (h : (k, e) ∈ i.rows d)
    (h' : (k, e') ∈ i.rows d) : e = e' := by
  obtain ⟨f, n, a, hn, rfl, rfl⟩ := mem_rows_of_ne hk h
  obtain ⟨g, m, b, hm, ht, rfl⟩ := mem_rows_of_ne hk h'
  obtain ⟨rfl, rfl⟩ := token_inj ht
  rw [hn] at hm
  rw [Option.some.inj hm]

end Interface

/-! ### Written out

What the addresses of an interface are and how they are named, without the steps of the builder. -/

/-- What an address counts as: one with the groups `0:0:0:0:0:ffff:h:l` is the IPv4 address of the octets
of `h` and `l`. -/
def Address.counted : Address → Address
  | v4 v => v4 v
  | v6 v =>
    match v.groups with
    | [0, 0, 0, 0, 0, 0xFFFF, h, l] =>
      v4 ⟨(h / 256).toUInt8, (h % 256).toUInt8, (l / 256).toUInt8, (l % 256).toUInt8⟩
    | _ => v6 v

/-- **An address is unmapped to what it counts as.** -/
theorem Address.counted_eq_unmapped (a : Address) : a.counted = a.unmapped := by
  cases a with
  | v4 v => rfl
  | v6 v =>
    unfold counted
    dsimp only
    split
    next h l hg =>
      have hmapped : v.mapped? = some (V4.ofGroups h l) := by
        rw [V6.mapped?, hg]
        rfl
      rw [unmapped_v6_of_mapped? hmapped, V4.ofGroups_eq]
    next hg =>
      have hmapped : v.mapped? = none := by
        unfold V6.mapped?
        split
        next h l hg' => exact absurd hg' (hg h l)
        next => rfl
      rw [unmapped_v6_of_not_mapped hmapped]

namespace Interface

/-- The addresses of a family, in host order: those of the texts that can be read, each as what it
counts as. -/
def accepted (i : Interface) (f : Family) : List Address :=
  ((i.addresses.filterMap Cidr.parse?).map fun c => c.address.counted).filter (·.family = f)

/-- The token of the `n`-th address of a family, written out. -/
def spelledToken (i : Interface) (f : Family) (n : Nat) : String :=
  let stem := (Text.upper i.name.toList).map fun c => if c = '.' then '_' else c
  let family := match f with
    | .v4 => "_ipv4"
    | .v6 => "_ipv6"
  "$iface_" ++ String.ofList (Text.lower stem) ++ family ++ if n = 0 then "" else "_" ++ toString n

/-- The variable of the `n`-th address of a family, written out. -/
def spelledVariable (i : Interface) (f : Family) (n : Nat) : String :=
  let stem := (Text.upper i.name.toList).map fun c => if c = '.' then '_' else c
  let family := match f with
    | .v4 => "_IPV4"
    | .v6 => "_IPV6"
  "IFACE_" ++ String.ofList stem ++ family ++ if n = 0 then "" else "_" ++ toString n

theorem accepted_eq (i : Interface) (f : Family) : i.accepted f = i.addressesOf f := by
  unfold accepted addressesOf
  simp only [Address.counted_eq_unmapped, List.map_filterMap]
  rfl

theorem ofList_numberSuffix (n : Nat) :
    String.ofList (numberSuffix n) = if n = 0 then "" else "_" ++ toString n := by
  unfold numberSuffix
  split
  · rfl
  · show String.ofList (['_'] ++ decimal n) = _
    rw [String.ofList_append]
    rfl

theorem spelledToken_eq (i : Interface) (f : Family) (n : Nat) : i.spelledToken f n = i.token f n := by
  unfold spelledToken token tokenSpelling
  rw [String.ofList_append, String.ofList_append, String.ofList_append, ofList_numberSuffix]
  cases f <;> rfl

theorem spelledVariable_eq (i : Interface) (f : Family) (n : Nat) :
    i.spelledVariable f n = i.variableName f n := by
  unfold spelledVariable variableName addressVariable
  rw [String.ofList_append, String.ofList_append, String.ofList_append, ofList_numberSuffix]
  cases f <;> rfl

end Interface

end BootEnv
