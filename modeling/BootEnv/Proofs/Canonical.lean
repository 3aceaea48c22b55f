import BootEnv.Proofs.AddressReading
import BootEnv.Proofs.Decoding
import BootEnv.Proofs.Entry

/-!
# The values of interface entries

Every entry of a built table but the well-known ones has the canonical text of an address for its
value: the text is read as an address and that is written as the text again. The variable ends in the
family of the address, and an address of IPv6 is not one that stands for an IPv4 address, since those
were turned into IPv4 before they were counted.

* `Family.Ends`: a name ends in a family, with or without a number.
* `Family.Ends.unique`: **in one family at most.**
* `interface_entry`: the address of an entry, whose family its variable ends in.
* `check_ne_badValue`: a variable whose value fits on a line is not refused for it.
* `canonical_build`: **interface entries are canonical addresses of the family that they are named
  for**, and no file is refused for one.
-/

namespace BootEnv

section Ends

/-- The name ends in the family, or in the family and a number. -/
def Family.Ends (f : Family) (name : List Char) : Prop :=
  ∃ front suffix, IsNumberSuffix suffix ∧ name = front ++ '_' :: f.label ++ suffix

variable {f g : Family} {name : List Char}

theorem Family.isWord_label (f : Family) : IsWord f.label := by
  cases f <;> exact ⟨by decide, 'I', by decide, by decide⟩

/-- **A name ends in one family at most.** -/
theorem Family.Ends.unique (h : f.Ends name) (h' : g.Ends name) : f = g := by
  have hlabel : ∀ f g : Family, f.label = g.label → f = g := by
    intro f g
    cases f <;> cases g <;> decide
  obtain ⟨a, s, hs, rfl⟩ := h
  obtain ⟨b, t, ht, he⟩ := h'
  exact hlabel f g (word_suffix_inj f.isWord_label g.isWord_label hs ht he).2.1

theorem ends_addressVariable (interface : List Char) (f : Family) (n : ℕ) :
    f.Ends (addressVariable interface f n) :=
  ⟨"IFACE_".toList ++ stem interface, numberSuffix n, isNumberSuffix_numberSuffix n, rfl⟩

theorem ends_defaultVariable : Family.v4.Ends defaultVariable.toList :=
  ⟨"IFACE_DEFAULT".toList, [], .inl rfl, by decide⟩

end Ends

/-- What an interface reads is unmapped. -/
theorem Interface.unmapped_of_mem_addressesOf {i : Interface} {f : Family} {a : Address}
    (h : a ∈ i.addressesOf f) : a.unmapped = a := by
  unfold addressesOf at h
  obtain ⟨text, -, htext⟩ := List.mem_filterMap.1 (List.mem_filter.1 h).1
  obtain ⟨c, -, rfl⟩ := Option.map_eq_some_iff.1 htext
  exact c.address.unmapped_unmapped

theorem Address.mapped?_eq_none {v : V6} (h : (Address.v6 v).unmapped = .v6 v) :
    v.mapped? = none := by
  cases hv : v.mapped? with
  | none => rfl
  | some w =>
    rw [unmapped_v6_of_mapped? hv] at h
    exact absurd h (by simp)

variable {m : Metadata} {h : Host} {lookup : Lookup} {k : String} {e : Entry}

/-- **The address of an interface entry**: it is unmapped and of the family that the variable ends
in. -/
theorem interface_entry (he : (Table.build m h lookup).value[k]? = some e)
    (hk : ∀ w : WellKnown, k ≠ w.token) :
    ∃ a : Address, a.unmapped = a ∧ a.family.Ends e.name.toList ∧ e.value = String.ofList a.print := by
  rcases build_cases he with ⟨w, hw, -⟩ | ⟨i, -, f, n, a, hn, -, rfl⟩ | ⟨a, hf, -, rfl⟩
  · exact absurd hw (hk w)
  · have hmem := List.mem_of_getElem? hn
    refine ⟨a, Interface.unmapped_of_mem_addressesOf hmem, ?_, rfl⟩
    rw [Interface.family_of_mem_addressesOf hmem, Interface.variableName, String.toList_ofList]
    exact ends_addressVariable _ f n
  · refine ⟨a, ?_, hf ▸ ends_defaultVariable, rfl⟩
    cases a with
    | v4 v => rfl
    | v6 v => exact absurd hf (by simp [Address.family])

theorem EnvFile.check_ne_badValue {f : EnvFile} {name value : String}
    (hv : f.vars[name]? = some value) (hvalue : isValue value.toList = true) :
    f.check ≠ .error (.badValue name) := by
  intro hcheck
  have hinvalid : ¬ f.Valid := by
    rw [valid_iff_check, hcheck]
    exact fun h => nomatch h
  obtain ⟨other, text, hfirst, hrefused⟩ := exists_firstOffender hinvalid
  rw [hcheck, refusalOf] at hrefused
  -- the variable that is refused is this one, and it has a name that can be written
  split at hrefused
  next hname =>
    obtain rfl : name = other := Refusal.badValue.inj (Except.error.inj hrefused)
    obtain rfl : value = text := Option.some.inj (hv.symm.trans hfirst.carried)
    exact hfirst.offends ⟨hname, hvalue⟩
  · exact absurd hrefused (by simp)

/-- **Interface entries are canonical addresses of the family that they are named for.** The value of
an entry that is not well-known is read as an address whose text is that value; the variable ends in
the family of that address and in no other; an IPv6 address is not IPv4-mapped. So the value is not
empty, it is carried by the file of the table, and no file that carries it is refused for it. -/
theorem canonical_build (m : Metadata) (h : Host) (lookup : Lookup) (k : String) (e : Entry)
    (he : (Table.build m h lookup).value[k]? = some e) (hk : ∀ w : WellKnown, k ≠ w.token) :
    ∃ a : Address, Address.parse? e.value.toList = some a ∧ String.ofList a.print = e.value ∧
      (∀ f : Family, f.Ends e.name.toList ↔ f = a.family) ∧
      (∀ v : V6, a = .v6 v → v.mapped? = none) ∧
      e.value ≠ "" ∧
      (∃ file, EnvFile.ofTable? (Table.build m h lookup).value = some file ∧
        file.vars[e.name]? = some e.value) ∧
      ∀ (file : EnvFile) (name : String), file.vars[name]? = some e.value →
        file.check ≠ .error (.badValue name) := by
  obtain ⟨a, hunmapped, hends, hvalue⟩ := interface_entry he hk
  have hne : e.value ≠ "" := by
    rw [hvalue]
    intro hempty
    exact a.print_ne_nil (by simpa using hempty)
  refine ⟨a, ?_, hvalue.symm, fun f => ?_, ?_, hne, ?_, fun file name hv => ?_⟩
  · rw [hvalue, String.toList_ofList, Address.parse?_print]
  · exact ⟨fun hf => hf.unique hends, fun hf => hf ▸ hends⟩
  · rintro v rfl
    exact Address.mapped?_eq_none hunmapped
  · have hsome : EnvFile.ofTable? (Table.build m h lookup).value ≠ none := fun hnone =>
      hne (EnvFile.ofTable?_eq_none_iff.1 hnone k e he)
    obtain ⟨file, hfile⟩ := Option.ne_none_iff_exists'.1 hsome
    refine ⟨file, hfile, ?_⟩
    rw [EnvFile.vars_of_ofTable? hfile, EnvFile.getElem?_variablesOf (apart_build m h lookup) he,
      if_neg hne]
  · refine EnvFile.check_ne_badValue hv ?_
    rw [hvalue, String.toList_ofList]
    exact a.isValue_print

/-- An interface whose name looks like that of a second IPv6 address, with an IPv4-mapped one. -/
def mappedHost : Host where
  interfaces := .ok [⟨"a_IPV6_2", ["::ffff:10.0.0.1/120"]⟩]
  routes := pure (.ok [])

/-- Its address is named for IPv4 and for nothing else. -/
theorem canonical_build_mapped :
    (Table.build Metadata.empty mappedHost Lookup.unset).value["$iface_a_ipv6_2_ipv4"]? =
        some ⟨"IFACE_A_IPV6_2_IPV4", "10.0.0.1"⟩ ∧
      (∀ w : WellKnown, "$iface_a_ipv6_2_ipv4" ≠ w.token) ∧
      Address.parse? "10.0.0.1".toList = some (.v4 ⟨10, 0, 0, 1⟩) ∧
      ∀ f : Family, f.Ends "IFACE_A_IPV6_2_IPV4".toList ↔ f = .v4 := by
  have he : (Table.build Metadata.empty mappedHost Lookup.unset).value["$iface_a_ipv6_2_ipv4"]? =
      some ⟨"IFACE_A_IPV6_2_IPV4", "10.0.0.1"⟩ := by
    decide +kernel
  have hk : ∀ w : WellKnown, "$iface_a_ipv6_2_ipv4" ≠ w.token := by
    intro w
    cases w <;> decide
  have hread : Address.parse? "10.0.0.1".toList = some (.v4 ⟨10, 0, 0, 1⟩) := by decide +kernel
  obtain ⟨a, ha, -, hends, -⟩ := canonical_build _ _ _ _ _ he hk
  obtain rfl := Option.some.inj (ha.symm.trans hread)
  exact ⟨he, hk, hread, hends⟩

end BootEnv
