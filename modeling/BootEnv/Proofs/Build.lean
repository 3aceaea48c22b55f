import BootEnv.Proofs.Interface
import BootEnv.Proofs.Rows
import Mathlib.Data.String.Basic

/-!
# What a built table holds

A table is filled with the well-known rows, then with those of each interface in the order of names.
The two kinds share no token, so each is looked up in its own part.

* `getElem?_build_wellKnown`: a well-known token has its own row, whatever the interfaces are.
* `getElem?_build_of_ne`: any other token is looked up among the rows of the interfaces.
* `build_cases`: what an entry of a table can be.
* `getElem?_build_eq_some_iff`: which interface an entry is from.
* `pairwise_interfaceList`: each name comes once, in ascending order.
* `build_interface_tokens`: **the other tokens are those of the addresses, and where interfaces share
  one the last by name decides.**
-/

namespace BootEnv

/-- Interfaces come in the order of their names, each name once. -/
theorem pairwise_interfaceList (h : Host) : h.interfaceList.value.Pairwise (·.name < ·.name) := by
  unfold Host.interfaceList
  split
  · unfold foldInterfaces
    rw [Reported.value_pure, List.pairwise_map]
    exact Std.ExtTreeMap.ordered_keys_toList.imp fun hlt => compare_lt_iff_lt.1 hlt
  · exact .nil

namespace Host

/-- The rows of all interfaces of a host. -/
def rows (h : Host) : List (String × Entry) :=
  h.interfaceList.value.flatMap (Interface.rows h.defaultInterface.value)

end Host

variable {m : Metadata} {h : Host} {lookup : Lookup} {k d : String} {e : Entry}

theorem value_build_eq_fill (m : Metadata) (h : Host) (lookup : Lookup) :
    (Table.build m h lookup).value =
      fill (WellKnown.all.map (WellKnown.row m lookup) ++ h.rows) :=
  Table.value_build m h lookup

theorem WellKnown.token_inj {w w' : WellKnown} (h : w.token = w'.token) : w = w' := by
  revert h
  cases w <;> cases w' <;> decide

/-- The rows of interfaces have no well-known token. -/
theorem Host.fst_ne_of_mem_rows {r : String × Entry} (hr : r ∈ h.rows) (w : WellKnown) :
    r.1 ≠ w.token := by
  unfold Host.rows at hr
  obtain ⟨i, -, hr⟩ := List.mem_flatMap.1 hr
  obtain ⟨a, n, -, rfl | ⟨-, rfl⟩⟩ := Interface.mem_rows_iff.1 hr
  · rw [Interface.row_eq]
    intro he
    have hl := congrArg String.toList he
    unfold Interface.token at hl
    rw [String.toList_ofList] at hl
    exact wellKnown_token_ne w _ _ _ hl.symm
  · show defaultToken ≠ w.token
    cases w <;> decide

/-- **A well-known token has its own row**, whatever the interfaces are. -/
theorem getElem?_build_wellKnown (m : Metadata) (h : Host) (lookup : Lookup) (w : WellKnown) :
    (Table.build m h lookup).value[w.token]? = some ⟨w.variableName, w.value m lookup⟩ := by
  rw [value_build_eq_fill, getElem?_fill_append,
    getElem?_fill_eq_none fun r hr => Host.fst_ne_of_mem_rows hr w, Option.none_or]
  refine getElem?_fill_of_forall (List.mem_map.2 ⟨w, w.mem_all, rfl⟩) fun r hr hk => ?_
  obtain ⟨w', -, rfl⟩ := List.mem_map.1 hr
  rw [WellKnown.token_inj hk]
  rfl

/-- **Any other token is looked up among the rows of the interfaces.** -/
theorem getElem?_build_of_ne (hk : ∀ w : WellKnown, k ≠ w.token) :
    (Table.build m h lookup).value[k]? = (fill h.rows)[k]? := by
  have hnone : (fill (WellKnown.all.map (WellKnown.row m lookup)))[k]? = none := by
    refine getElem?_fill_eq_none fun r hr => ?_
    obtain ⟨w, -, rfl⟩ := List.mem_map.1 hr
    exact fun he => hk w he.symm
  rw [value_build_eq_fill, getElem?_fill_append, hnone, Option.or_none]

/-- What holds of some member holds of a last one. -/
theorem exists_last {α : Type} {p : α → Prop} {l : List α} (h : ∃ x ∈ l, p x) :
    ∃ a x b, l = a ++ x :: b ∧ p x ∧ ∀ y ∈ b, ¬ p y := by
  induction l with
  | nil => obtain ⟨x, hx, -⟩ := h; exact absurd hx (by simp)
  | cons y l ih =>
    by_cases hl : ∃ x ∈ l, p x
    · obtain ⟨a, x, b, rfl, hx, hb⟩ := ih hl
      exact ⟨y :: a, x, b, rfl, hx, hb⟩
    · obtain ⟨x, hx, hp⟩ := h
      rcases List.mem_cons.1 hx with rfl | hx
      · exact ⟨[], x, l, rfl, hp, fun z hz hpz => hl ⟨z, hz, hpz⟩⟩
      · exact absurd ⟨x, hx, hp⟩ hl

/-- An interface that does not carry a token has no row for it. -/
theorem fst_ne_of_not_carries {i : Interface} (hk : k ≠ defaultToken) (hi : ¬ i.Carries k) :
    ∀ r ∈ i.rows d, r.1 ≠ k := by
  rintro ⟨l, e⟩ hr rfl
  obtain ⟨f, n, a, hn, rfl, -⟩ := Interface.mem_rows_of_ne hk hr
  exact hi (Interface.carries_of_getElem? hn)

/-- **Of the interfaces that share a token the last one decides.** -/
theorem getElem?_fill_rows {a b : List Interface} {i : Interface} (hk : k ≠ defaultToken)
    (hb : ∀ j ∈ b, ¬ j.Carries k) (he : (k, e) ∈ i.rows d) :
    (fill ((a ++ i :: b).flatMap (Interface.rows d)))[k]? = some e := by
  have hnone : (fill (b.flatMap (Interface.rows d)))[k]? = none := by
    refine getElem?_fill_eq_none fun r hr => ?_
    obtain ⟨j, hj, hr⟩ := List.mem_flatMap.1 hr
    exact fst_ne_of_not_carries hk (hb j hj) r hr
  have hsome : (fill (i.rows d))[k]? = some e := by
    refine getElem?_fill_of_forall he fun r hr hrk => ?_
    obtain ⟨l, e'⟩ := r
    obtain rfl : l = k := hrk
    exact Interface.rows_agree hk hr he
  rw [List.flatMap_append, List.flatMap_cons, getElem?_fill_append, getElem?_fill_append,
    hnone, hsome, Option.none_or, Option.some_or]

/-- **What an entry of a built table can be**: a well-known one, that of an address, or the default
one, which is of an IPv4 address. -/
theorem build_cases (he : (Table.build m h lookup).value[k]? = some e) :
    (∃ w : WellKnown, k = w.token ∧ e = ⟨w.variableName, w.value m lookup⟩) ∨
    (∃ i ∈ h.interfaceList.value, ∃ f n a, (i.addressesOf f)[n]? = some a ∧ k = i.token f n ∧
      e = ⟨i.variableName f n, String.ofList a.print⟩) ∨
    ∃ a : Address, a.family = .v4 ∧ k = defaultToken ∧
      e = ⟨defaultVariable, String.ofList a.print⟩ := by
  rw [value_build_eq_fill] at he
  rcases List.mem_append.1 (mem_of_getElem?_fill he) with hr | hr
  · obtain ⟨w, -, hw⟩ := List.mem_map.1 hr
    unfold WellKnown.row at hw
    rw [Prod.mk.injEq] at hw
    exact .inl ⟨w, hw.1.symm, hw.2.symm⟩
  · obtain ⟨i, hi, hr⟩ := List.mem_flatMap.1 hr
    obtain ⟨a, n, hn, hr | ⟨hd, hr⟩⟩ := Interface.mem_rows_iff.1 hr
    · rw [Interface.row_eq, Prod.mk.injEq] at hr
      exact .inr (.inl ⟨i, hi, a.family, n, a, hn, hr⟩)
    · unfold Interface.defaultRow at hr
      rw [Prod.mk.injEq] at hr
      exact .inr (.inr ⟨a, hd.1, hr⟩)

/-- **Of the interfaces with a row for a token the last one decides**, unless the token is
well-known. -/
theorem getElem?_build_eq_some_iff (hk : ∀ w : WellKnown, k ≠ w.token) :
    (Table.build m h lookup).value[k]? = some e ↔
      ∃ i ∈ h.interfaceList.value, (fill (i.rows h.defaultInterface.value))[k]? = some e ∧
        ∀ j ∈ h.interfaceList.value, i.name < j.name →
          (fill (j.rows h.defaultInterface.value))[k]? = none := by
  have hsorted := pairwise_interfaceList h
  rw [getElem?_build_of_ne hk]
  unfold Host.rows
  rw [getElem?_fill_flatMap, List.findSome?_eq_some_iff]
  constructor
  · rintro ⟨back, i, front, hl, he, hback⟩
    have hl' : h.interfaceList.value = front.reverse ++ i :: back.reverse := by
      simpa using congrArg List.reverse hl
    refine ⟨i, by rw [hl']; simp, he, fun j hj hlt => hback j ?_⟩
    -- what stands before `i` or is `i` has no later name
    rw [hl'] at hj hsorted
    rcases List.mem_append.1 hj with hj | hj
    · have hlt' := (List.pairwise_append.1 hsorted).2.2 j hj i List.mem_cons_self
      exact absurd hlt (lt_asymm hlt')
    · rcases List.mem_cons.1 hj with rfl | hj
      · exact absurd hlt (lt_irrefl _)
      · exact List.mem_reverse.1 hj
  · rintro ⟨i, hi, he, hlast⟩
    obtain ⟨front, back, hl⟩ := List.append_of_mem hi
    refine ⟨back.reverse, i, front.reverse, by rw [hl]; simp, he, fun j hj => ?_⟩
    have hj : j ∈ back := List.mem_reverse.1 hj
    rw [hl] at hsorted
    refine hlast j (by rw [hl]; simp [hj]) ?_
    exact (List.pairwise_cons.1 (List.pairwise_append.1 hsorted).2.1).1 j hj

/-- **The tokens of interface addresses.** But for the well-known tokens and the default one, a table
has the tokens of the addresses of the host's interfaces and no others. The entry of such a token is
that of the last interface, in the order of names, that has it. -/
theorem build_interface_tokens (m : Metadata) (h : Host) (lookup : Lookup) :
    h.interfaceList.value.Pairwise (·.name < ·.name) ∧
    (∀ i ∈ h.interfaceList.value, ∀ f n, n < (i.accepted f).length →
      i.spelledToken f n ∈ (Table.build m h lookup).value) ∧
    ∀ k e, (Table.build m h lookup).value[k]? = some e → (∀ w : WellKnown, k ≠ w.token) →
      k ≠ defaultToken →
      ∃ i ∈ h.interfaceList.value, ∃ f n a, k = i.spelledToken f n ∧ (i.accepted f)[n]? = some a ∧
        (∀ j ∈ h.interfaceList.value, ∀ g l, l < (j.accepted g).length → k = j.spelledToken g l →
          j.name ≤ i.name) ∧
        e = ⟨i.spelledVariable f n, String.ofList a.print⟩ := by
  simp only [Interface.accepted_eq, Interface.spelledToken_eq, Interface.spelledVariable_eq]
  refine ⟨pairwise_interfaceList h, ?_, ?_⟩
  · intro i hi f n hn
    obtain ⟨e, he⟩ := Interface.exists_row_of_carries ⟨f, n, hn, rfl⟩ h.defaultInterface.value
    rw [value_build_eq_fill, mem_fill]
    exact ⟨_, List.mem_append_right _ (List.mem_flatMap.2 ⟨i, hi, he⟩), rfl⟩
  · intro k e he hw hd
    rw [getElem?_build_of_ne hw] at he
    -- the row that is found shows that the token is carried, so there is a last interface with it
    obtain ⟨i₀, hi₀, hr₀⟩ := List.mem_flatMap.1 (mem_of_getElem?_fill he)
    have hcarries : ∃ i ∈ h.interfaceList.value, i.Carries k := by
      obtain ⟨f, n, a, hn, hk, -⟩ := Interface.mem_rows_of_ne hd hr₀
      exact ⟨i₀, hi₀, hk ▸ Interface.carries_of_getElem? hn⟩
    obtain ⟨front, i, back, his, hi, hback⟩ := exists_last hcarries
    obtain ⟨e', he'⟩ := Interface.exists_row_of_carries hi h.defaultInterface.value
    have hlast := getElem?_fill_rows (a := front) hd hback he'
    rw [← his] at hlast
    obtain rfl : e = e' := Option.some.inj (he.symm.trans hlast)
    obtain ⟨f, n, a, hn, hk, rfl⟩ := Interface.mem_rows_of_ne hd he'
    refine ⟨i, by rw [his]; simp, f, n, a, hk, hn, fun j hj g l hl hjk => ?_, rfl⟩
    have hsorted := pairwise_interfaceList h
    rw [his] at hj hsorted
    rcases List.mem_append.1 hj with hj | hj
    · exact le_of_lt ((List.pairwise_append.1 hsorted).2.2 j hj i List.mem_cons_self)
    · rcases List.mem_cons.1 hj with rfl | hj
      · exact le_rfl
      · exact absurd ⟨g, l, hl, hjk⟩ (hback j hj)

/-- An interface with an address that cannot be read and an IPv4-mapped one. -/
def dotted : Interface :=
  ⟨"br.0", ["10.0.0.1/24", "10.0.0/24", "::ffff:10.0.0.2/120", "fe80::1/64"]⟩

/-- One that comes after it and has the same stem. -/
def underscored : Interface := ⟨"br_0", ["192.168.0.1/16"]⟩

/-- A host with both. -/
def sharedStemHost : Host where
  interfaces := .ok [underscored, dotted]
  routes := pure (.ok [])

/-- The mapped address is the second one; the token of the first goes to the later interface. -/
theorem build_interface_tokens_shared :
    dotted.accepted .v4 = [.v4 ⟨10, 0, 0, 1⟩, .v4 ⟨10, 0, 0, 2⟩] ∧
    "$iface_br_0_ipv4_1" ∈ (Table.build .empty sharedStemHost .unset).value ∧
    (Table.build .empty sharedStemHost .unset).value["$iface_br_0_ipv4"]? =
      some ⟨"IFACE_BR_0_IPV4", "192.168.0.1"⟩ := by
  have haccepted : dotted.accepted .v4 = [.v4 ⟨10, 0, 0, 1⟩, .v4 ⟨10, 0, 0, 2⟩] := by decide +kernel
  have hlist : sharedStemHost.interfaceList.value = [dotted, underscored] := by decide +kernel
  have hfirst : dotted.spelledToken .v4 0 = "$iface_br_0_ipv4" := by decide +kernel
  have hsecond : dotted.spelledToken .v4 1 = "$iface_br_0_ipv4_1" := by decide +kernel
  obtain ⟨-, hkeys, hentries⟩ := build_interface_tokens .empty sharedStemHost .unset
  have hdotted : dotted ∈ sharedStemHost.interfaceList.value := by simp [hlist]
  refine ⟨haccepted, hsecond ▸ hkeys dotted hdotted .v4 1 (by simp [haccepted]), ?_⟩
  have hmem := hkeys dotted hdotted .v4 0 (by simp [haccepted])
  rw [hfirst, Std.ExtTreeMap.mem_iff_isSome_getElem?] at hmem
  obtain ⟨e, he⟩ := Option.isSome_iff_exists.1 hmem
  obtain ⟨i, hi, f, n, a, -, hn, hlast, rfl⟩ := hentries _ e he
    (fun w => by cases w <;> decide) (by decide)
  have hle := hlast underscored (by simp [hlist]) .v4 0 (by decide +kernel) (by decide +kernel)
  rw [he]
  rw [hlist] at hi
  rcases List.mem_cons.1 hi with rfl | hi
  · exact absurd hle (by decide)
  · obtain rfl := List.mem_singleton.1 hi
    have hv4 : underscored.accepted .v4 = [.v4 ⟨192, 168, 0, 1⟩] := by decide +kernel
    have hv6 : underscored.accepted .v6 = [] := by decide +kernel
    cases f with
    | v6 => simp [hv6] at hn
    | v4 =>
      cases n with
      | succ n => simp [hv4] at hn
      | zero =>
        obtain rfl : Address.v4 ⟨192, 168, 0, 1⟩ = a := by simpa [hv4] using hn
        decide +kernel

end BootEnv
