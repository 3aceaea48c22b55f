import BootEnv.Proofs.Build

/-!
# The token of the default route's interface

The default token is entered for each IPv4 address of the default route's interface, but its spelling
is also that of the first IPv4 address of an interface whose name is `default` in lower case. Such a
namesake enters the same token, so of the interfaces that enter it the last one by name decides.

* `token_eq_defaultToken_iff`: which addresses have the default token as their own.
* `Interface.underDefault?`: what an interface enters under the default token.
* `getElem?_fill_rows_defaultToken`: **that is what its rows hold there.**
* `getElem?_build_defaultToken_iff`: the last interface that enters anything decides.
* `Host.Usurps`: a namesake with no IPv4 address of the default route's interface behind it.
* `build_default_token`: **unless one usurps the token, it is the last IPv4 address of the default
  route's interface; otherwise it is the first one of the last usurper.**
* `build_default_token_usurped`: a host where that happens.
-/

namespace BootEnv

/-- The address that a reading found, if it is of the family. -/
def Reading.addressOf? (f : Family) : Reading → Option Address
  | .unreadable _ => none
  | .found a _ => if a.family = f then some a else none

namespace Interface

variable {i : Interface} {f : Family} {n : Nat} {d : String}

/-- The name in lower case, as tokens spell it, is `default`. -/
def IsNamesake (i : Interface) : Prop := Text.lower (stem i.name.toList) = "default".toList

instance : DecidablePred IsNamesake := fun _ => decEq _ _

/-- **The default token is that of the first IPv4 address of a namesake**, and of no other address. -/
theorem token_eq_defaultToken_iff : i.token f n = defaultToken ↔
    i.IsNamesake ∧ f = .v4 ∧ n = 0 := by
  unfold token IsNamesake
  rw [← String.toList_inj, String.toList_ofList, toList_defaultToken, tokenSpelling_inj,
    lower_stem_default]

/-- What an interface enters under the default token: as that of the default route its last IPv4
address, as a namesake its first. -/
def underDefault? (d : String) (i : Interface) : Option Entry :=
  if d ≠ "" ∧ i.name = d then
    (i.addressesOf .v4).getLast?.map fun a => ⟨defaultVariable, String.ofList a.print⟩
  else if i.IsNamesake then
    (i.addressesOf .v4).head?.map fun a => ⟨i.variableName .v4 0, String.ofList a.print⟩
  else none

theorem filterMap_readingsFrom (seen : Family → Nat) (texts : List String) :
    (readingsFrom seen texts).filterMap (Reading.addressOf? f) =
      (texts.filterMap addressOf?).filter (·.family = f) := by
  induction texts generalizing seen with
  | nil => rfl
  | cons text rest ih =>
    unfold readingsFrom
    cases hb : addressOf? text with
    | none => simp only [List.filterMap_cons, Reading.addressOf?, hb, ih]
    | some b =>
      by_cases hf : b.family = f <;>
        simp [Reading.addressOf?, hb, ih, hf]

/-- The readings of an interface hold its addresses in host order. -/
theorem filterMap_readings (i : Interface) (f : Family) :
    i.readings.filterMap (Reading.addressOf? f) = i.addressesOf f :=
  filterMap_readingsFrom _ _

/-- On the default route each IPv4 address is entered under the default token. -/
theorem getElem?_fill_rowsOf (hd : d ≠ "") (hi : i.name = d) (reading : Reading) :
    (fill (i.rowsOf d reading))[defaultToken]? =
      (reading.addressOf? .v4).map fun a => ⟨defaultVariable, String.ofList a.print⟩ := by
  cases reading with
  | unreadable text => simp [rowsOf, fill, Reading.addressOf?]
  | found a n =>
    by_cases hf : a.family = .v4
    · -- the default row is entered over the address's own, whatever token that one has
      have hrows : i.rowsOf d (.found a n) = [i.row a n] ++ [defaultRow a] := by
        rw [rowsOf, if_pos ⟨hf, hd, hi⟩, List.singleton_append]
      rw [hrows, fill_concat, Std.ExtTreeMap.getElem?_insert]
      simp [defaultRow, Reading.addressOf?, hf]
    · have hkey : (i.row a n).1 ≠ defaultToken := by
        rw [row_eq]
        exact fun he => hf (token_eq_defaultToken_iff.1 he).2.1
      have hrows : i.rowsOf d (.found a n) = [i.row a n] := by
        rw [rowsOf, if_neg fun hc => hf hc.1]
      rw [hrows, getElem?_fill_eq_none (by simpa using hkey)]
      simp [Reading.addressOf?, hf]

/-- **What the rows of an interface hold under the default token.** -/
theorem getElem?_fill_rows_defaultToken (d : String) (i : Interface) :
    (fill (i.rows d))[defaultToken]? = i.underDefault? d := by
  unfold underDefault?
  by_cases hd : d ≠ "" ∧ i.name = d
  · -- every IPv4 address is entered, so the last one stays
    rw [if_pos hd, rows_eq_flatMap, getElem?_fill_flatMap, ← filterMap_readings,
      List.getLast?_filterMap, List.map_findSome?]
    congr 1
    funext reading
    exact getElem?_fill_rowsOf hd.1 hd.2 reading
  · -- only an address with the token of its own can enter it
    have hrow : ∀ r ∈ i.rows d, r.1 = defaultToken → i.IsNamesake ∧
        ∃ a, (i.addressesOf .v4)[0]? = some a ∧
          r.2 = ⟨i.variableName .v4 0, String.ofList a.print⟩ := by
      intro r hr hk
      obtain ⟨a, n, hn, rfl | ⟨hc, -⟩⟩ := mem_rows_iff.1 hr
      · rw [row_eq] at hk ⊢
        obtain ⟨hname, hf, rfl⟩ := token_eq_defaultToken_iff.1 hk
        rw [hf] at hn ⊢
        exact ⟨hname, a, hn, rfl⟩
      · exact absurd hc.2 hd
    rw [if_neg hd]
    by_cases hname : i.IsNamesake
    · rw [if_pos hname, List.head?_eq_getElem?]
      cases ha : (i.addressesOf .v4)[0]? with
      | none =>
        refine getElem?_fill_eq_none fun r hr hk => ?_
        obtain ⟨-, a, hn, -⟩ := hrow r hr hk
        exact absurd (ha.symm.trans hn) (by simp)
      | some a =>
        have hf : a.family = .v4 := family_of_mem_addressesOf (List.mem_of_getElem? ha)
        refine getElem?_fill_of_forall (mem_rows_iff.2 ⟨a, 0, by rw [hf]; exact ha, .inl ?_⟩) ?_
        · rw [row_eq, hf, token_eq_defaultToken_iff.2 ⟨hname, rfl, rfl⟩]
        · intro r hr hk
          obtain ⟨-, b, hb, hv⟩ := hrow r hr hk
          rw [ha] at hb
          rw [hv, Option.some.inj hb]
    · rw [if_neg hname]
      exact getElem?_fill_eq_none fun r hr hk => hname (hrow r hr hk).1

theorem underDefault?_of_default {a : Address} (hd : d ≠ "" ∧ i.name = d)
    (ha : (i.addressesOf .v4).getLast? = some a) :
    i.underDefault? d = some ⟨defaultVariable, String.ofList a.print⟩ := by
  rw [underDefault?, if_pos hd, ha, Option.map_some]

theorem underDefault?_of_namesake {a : Address} (hd : ¬ (d ≠ "" ∧ i.name = d))
    (hname : i.IsNamesake) (ha : (i.addressesOf .v4).head? = some a) :
    i.underDefault? d = some ⟨i.variableName .v4 0, String.ofList a.print⟩ := by
  rw [underDefault?, if_neg hd, if_pos hname, ha, Option.map_some]

/-- An interface enters something if it has an IPv4 address and is the one or the other. -/
theorem underDefault?_ne_none_iff : i.underDefault? d ≠ none ↔
    ((d ≠ "" ∧ i.name = d) ∨ i.IsNamesake) ∧ i.addressesOf .v4 ≠ [] := by
  unfold underDefault?
  by_cases hd : d ≠ "" ∧ i.name = d
  · simp [hd]
  · by_cases hname : i.IsNamesake <;> simp [hd, hname]

end Interface

namespace Host

/-- **A namesake usurps the default token** when it has an IPv4 address, is not the interface of the
default route, and stands behind any IPv4 address of that one. -/
structure Usurps (h : Host) (j : Interface) : Prop where
  mem : j ∈ h.interfaceList.value
  namesake : j.IsNamesake
  address : j.addressesOf .v4 ≠ []
  not_default : ¬ (h.defaultInterface.value ≠ "" ∧ j.name = h.defaultInterface.value)
  behind : ∀ i ∈ h.interfaceList.value,
    (h.defaultInterface.value ≠ "" ∧ i.name = h.defaultInterface.value) →
      i.addressesOf .v4 ≠ [] → i.name < j.name

end Host

variable (m : Metadata) (h : Host) (lookup : Lookup)

/-- **The last interface that enters anything under the default token decides.** -/
theorem getElem?_build_defaultToken_iff (e : Entry) :
    (Table.build m h lookup).value[defaultToken]? = some e ↔
      ∃ i ∈ h.interfaceList.value, i.underDefault? h.defaultInterface.value = some e ∧
        ∀ j ∈ h.interfaceList.value, i.name < j.name →
          j.underDefault? h.defaultInterface.value = none := by
  rw [getElem?_build_eq_some_iff fun w => by cases w <;> decide]
  simp only [Interface.getElem?_fill_rows_defaultToken]

theorem mem_build_defaultToken {i : Interface} (hi : i ∈ h.interfaceList.value)
    (he : i.underDefault? h.defaultInterface.value ≠ none) :
    defaultToken ∈ (Table.build m h lookup).value := by
  obtain ⟨e, he⟩ := Option.ne_none_iff_exists'.1 he
  rw [← Interface.getElem?_fill_rows_defaultToken] at he
  have hrow : (defaultToken, e) ∈ h.rows :=
    List.mem_flatMap.2 ⟨i, hi, mem_of_getElem?_fill he⟩
  rw [value_build_eq_fill, mem_fill]
  exact ⟨_, List.mem_append_right _ hrow, rfl⟩

/-- Unless it is usurped, an entry of the default token is that of the default route's interface. -/
theorem getElem?_build_of_not_usurped {e : Entry} (hu : ∀ j, ¬ h.Usurps j)
    (he : (Table.build m h lookup).value[defaultToken]? = some e) :
    h.defaultInterface.value ≠ "" ∧
      ∃ i ∈ h.interfaceList.value, i.name = h.defaultInterface.value ∧
        ∃ a, (i.addressesOf .v4).getLast? = some a ∧
          e = ⟨defaultVariable, String.ofList a.print⟩ := by
  obtain ⟨i, hi, he, hlast⟩ := (getElem?_build_defaultToken_iff m h lookup e).1 he
  have hne : i.underDefault? h.defaultInterface.value ≠ none := by rw [he]; simp
  obtain ⟨hkind, haddr⟩ := Interface.underDefault?_ne_none_iff.1 hne
  by_cases hd : h.defaultInterface.value ≠ "" ∧ i.name = h.defaultInterface.value
  · obtain ⟨a, ha⟩ := Option.ne_none_iff_exists'.1
      (mt List.getLast?_eq_none_iff.1 haddr)
    rw [Interface.underDefault?_of_default hd ha] at he
    exact ⟨hd.1, i, hi, hd.2, a, ha, (Option.some.inj he).symm⟩
  · -- a namesake, but as it does not usurp the token the default route's interface comes later
    exfalso
    refine hu i ⟨hi, hkind.resolve_left hd, haddr, hd, fun j hj hjd hja => ?_⟩
    have henters := Interface.underDefault?_ne_none_iff.2 ⟨.inl hjd, hja⟩
    have hnot : ¬ i.name < j.name := fun hlt => henters (hlast j hj hlt)
    have hother : j.name ≠ i.name := fun hji => hd ⟨hjd.1, hji ▸ hjd.2⟩
    exact lt_of_le_of_ne (not_lt.1 hnot) hother

/-- The last usurper has the default token. -/
theorem getElem?_build_of_usurped {j : Interface} (hj : h.Usurps j)
    (hlast : ∀ j', h.Usurps j' → j'.name ≤ j.name) :
    ∃ a, (j.addressesOf .v4).head? = some a ∧
      (Table.build m h lookup).value[defaultToken]? =
        some ⟨j.variableName .v4 0, String.ofList a.print⟩ := by
  obtain ⟨a, ha⟩ := Option.ne_none_iff_exists'.1 (mt List.head?_eq_none_iff.1 hj.address)
  refine ⟨a, ha, (getElem?_build_defaultToken_iff m h lookup _).2 ⟨j, hj.mem, ?_, ?_⟩⟩
  · exact Interface.underDefault?_of_namesake hj.not_default hj.namesake ha
  · intro i hi hlt
    by_contra henters
    obtain ⟨hkind, haddr⟩ := Interface.underDefault?_ne_none_iff.1 henters
    by_cases hd : h.defaultInterface.value ≠ "" ∧ i.name = h.defaultInterface.value
    · exact lt_asymm hlt (hj.behind i hi hd haddr)
    · -- a namesake behind the last usurper would usurp the token itself
      have hi' : h.Usurps i := ⟨hi, hkind.resolve_left hd, haddr, hd,
        fun i' hi' hd' ha' => (hj.behind i' hi' hd' ha').trans hlt⟩
      exact absurd (hlast i hi') (not_le.2 hlt)

/-- **The default token.** Unless a namesake usurps it, a table has the default token exactly when
the default route has an interface with an IPv4 address, and the entry is that of the interface's
last one. A usurper takes it from there: the entry is then that of the first IPv4 address of the last
usurper. -/
theorem build_default_token (m : Metadata) (h : Host) (lookup : Lookup) :
    ((∀ j, ¬ h.Usurps j) →
      (defaultToken ∈ (Table.build m h lookup).value ↔
        h.defaultInterface.value ≠ "" ∧ ∃ i ∈ h.interfaceList.value,
          i.name = h.defaultInterface.value ∧ i.addressesOf .v4 ≠ []) ∧
      ∀ e, (Table.build m h lookup).value[defaultToken]? = some e →
        ∃ i ∈ h.interfaceList.value, i.name = h.defaultInterface.value ∧
          ∃ a, (i.addressesOf .v4).getLast? = some a ∧
            e = ⟨defaultVariable, String.ofList a.print⟩) ∧
    ∀ j, h.Usurps j → (∀ j', h.Usurps j' → j'.name ≤ j.name) →
      ∃ a, (j.addressesOf .v4).head? = some a ∧
        (Table.build m h lookup).value[defaultToken]? =
          some ⟨j.variableName .v4 0, String.ofList a.print⟩ := by
  refine ⟨fun hu => ⟨⟨fun hmem => ?_, ?_⟩, fun e he => ?_⟩, fun j hj hlast => ?_⟩
  · have he := Std.ExtTreeMap.getElem?_eq_some_getElem hmem
    obtain ⟨hd, i, hi, hname, a, ha, -⟩ := getElem?_build_of_not_usurped m h lookup hu he
    refine ⟨hd, i, hi, hname, ?_⟩
    intro hnil
    rw [hnil] at ha
    exact absurd ha (by simp)
  · rintro ⟨hd, i, hi, hname, haddr⟩
    exact mem_build_defaultToken m h lookup hi
      (Interface.underDefault?_ne_none_iff.2 ⟨.inl ⟨hd, hname⟩, haddr⟩)
  · exact (getElem?_build_of_not_usurped m h lookup hu he).2
  · exact getElem?_build_of_usurped m h lookup hj hlast

/-- A default route over `br0` and an interface named `default` behind it. -/
def usurpedHost : Host where
  interfaces := .ok [⟨"br0", ["10.0.0.1/24"]⟩, ⟨"default", ["10.9.9.9/24"]⟩]
  routes := pure (.ok [⟨some "br0", true⟩])

/-- The default token is not always an address of the default route's interface. -/
theorem build_default_token_usurped :
    usurpedHost.defaultInterface.value = "br0" ∧
      (usurpedHost.interfaceList.value.map fun i =>
        (i.name, (i.addressesOf .v4).map fun a => String.ofList a.print)) =
          [("br0", ["10.0.0.1"]), ("default", ["10.9.9.9"])] ∧
      (Table.build Metadata.empty usurpedHost Lookup.unset).value[defaultToken]? =
        some ⟨defaultVariable, "10.9.9.9"⟩ := by
  decide +kernel

end BootEnv
