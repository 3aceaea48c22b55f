import BootEnv.Proofs.AddressText
import BootEnv.Proofs.Decoding
import BootEnv.Proofs.Entry

/-!
# Which tables can be written to a file

A file is refused when one of its variables cannot be written. The values of a table fit on a line
when those of the environment do, since addresses have no character that could end one. The names
are another matter: an interface name is turned to upper case with underscores for dots and goes into
the variable as it is, so a dash or a letter beyond ASCII makes a variable that no file can have.

* `isName_variableName_iff`: **which interfaces give names that can be written.**
* `writable_iff_check`: a file can be written, alone and into every text, when its check passes.
* `isValue_build`: the values of a table fit on a line.
* `exists_of_not_isName`: where a name that cannot be written comes from.
* `writable_build_iff`: **a table can be written exactly when all its names can, that is when no
  variable is named after an interface that is not plain**; otherwise such a name is refused.
* `render_build_dashed`: a host whose file is refused.
-/

namespace BootEnv

section Names

theorem isName_iff {cs : List Char} :
    isName cs = true ↔ cs ≠ [] ∧ ∀ c ∈ cs, isNameChar c = true := by
  simp [isName]

theorem isNameChar_of_isDigit {c : Char} (h : c.isDigit = true) : isNameChar c = true := by
  have hc : '0' ≤ c ∧ c ≤ '9' := by
    simpa [Char.isDigit, Char.le_def] using h
  simp [isNameChar, hc.1, hc.2]

/-- The characters of the name, dots aside, have an upper case that a variable name may have. -/
def Interface.IsPlain (i : Interface) : Prop :=
  (Text.upper i.name.toList).all (fun c => c == '.' || isNameChar c) = true

instance : DecidablePred Interface.IsPlain := fun _ => decEq _ _

theorem isPlain_iff_stem {i : Interface} :
    i.IsPlain ↔ ∀ c ∈ stem i.name.toList, isNameChar c = true := by
  unfold stem Interface.IsPlain
  rw [List.forall_mem_map, List.all_eq_true]
  refine forall₂_congr fun c _ => ?_
  by_cases hc : c = '.'
  · simp [hc, show isNameChar '_' = true by decide]
  · simp [hc]

theorem isNameChar_of_mem_numberSuffix {n : Nat} {c : Char} (h : c ∈ numberSuffix n) :
    isNameChar c = true := by
  unfold numberSuffix at h
  split at h
  · simp at h
  · rcases List.mem_cons.1 h with rfl | h
    · decide
    · exact isNameChar_of_isDigit (isDigit_of_mem_decimal h)

/-- **The interfaces that give names which can be written are the plain ones.** -/
theorem isName_variableName_iff {i : Interface} {f : Family} {n : Nat} :
    isName (i.variableName f n).toList = true ↔ i.IsPlain := by
  have hfront : "IFACE_".toList.all isNameChar = true := by decide
  have hlabel : ('_' :: f.label).all isNameChar = true := by cases f <;> decide
  rw [List.all_eq_true] at hfront hlabel
  unfold Interface.variableName addressVariable
  rw [String.toList_ofList, isName_iff, isPlain_iff_stem]
  constructor
  · rintro ⟨-, hall⟩ c hc
    exact hall c (by simp [hc])
  · intro hstem
    refine ⟨by simp, fun c hc => ?_⟩
    rcases List.mem_append.1 hc with hc | hc
    · rcases List.mem_append.1 hc with hc | hc
      · rcases List.mem_append.1 hc with hc | hc
        · exact hfront c hc
        · exact hstem c hc
      · exact hlabel c hc
    · exact isNameChar_of_mem_numberSuffix hc

theorem isName_wellKnown (w : WellKnown) : isName w.variableName.toList = true := by
  cases w <;> decide

end Names

namespace EnvFile

variable {f : EnvFile} {t : Table}

/-- The file can be written, alone and into every text. -/
def Writable (f : EnvFile) : Prop :=
  (∃ content, f.render = .ok content) ∧ ∀ existing, ∃ content, f.merge existing = .ok content

/-- **A file can be written when its check passes.** -/
theorem writable_iff_check : f.Writable ↔ f.check = .ok () := by
  constructor
  · rintro ⟨⟨content, hr⟩, -⟩
    exact check_eq_ok_iff.2 (render_eq_ok_iff.1 hr).1
  · intro h
    unfold Writable render merge
    rw [h]
    exact ⟨⟨_, rfl⟩, fun _ => ⟨_, rfl⟩⟩

/-- Where all values fit, a bad name is what a file is refused for. -/
theorem exists_badName (hvalues : ∀ v ∈ f.vars.toList, isValue v.2.toList = true)
    (hbad : f.check ≠ .ok ()) :
    ∃ v ∈ f.vars.toList, isName v.1.toList = false ∧ f.check = .error (.badName v.1) := by
  obtain ⟨name, value, hfirst, hcheck⟩ := exists_firstOffender (mt valid_iff_check.1 hbad)
  have hmem := Std.ExtTreeMap.mem_toList_iff_getElem?_eq_some.2 hfirst.carried
  have hvalue : isValue value.toList = true := hvalues (name, value) hmem
  have hname : isName name.toList = false :=
    Bool.eq_false_iff.2 fun hn => hfirst.offends ⟨hn, hvalue⟩
  refine ⟨(name, value), hmem, hname, ?_⟩
  rw [hcheck, refusalOf, hname]
  rfl

theorem exists_of_mem_variablesOf {v : String × String} (hv : v ∈ (variablesOf t).toList) :
    ∃ (k : String) (e : Entry), t[k]? = some e ∧ e.name = v.1 ∧ e.value = v.2 := by
  rw [Std.ExtTreeMap.mem_toList_iff_getElem?_eq_some, variablesOf_eq_fill] at hv
  obtain ⟨⟨k, e⟩, hm, hr⟩ := List.mem_map.1 (mem_of_getElem?_fill hv)
  rw [Prod.mk.injEq] at hr
  exact ⟨k, e, (mem_filled.1 hm).1, hr⟩

end EnvFile

/-- All names of the table can be written. -/
def Table.WellNamed (t : Table) : Prop :=
  ∀ (k : String) (e : Entry), t[k]? = some e → isName e.name.toList = true

/-- A variable of the table is named after the interface. -/
def Table.NamedAfter (t : Table) (i : Interface) : Prop :=
  ∃ (k : String) (e : Entry) (f : Family) (n : Nat), t[k]? = some e ∧ e.name = i.variableName f n

variable {m : Metadata} {h : Host} {lookup : Lookup} {k : String} {e : Entry}

/-- The values of a table fit on a line when those of the environment do. -/
theorem isValue_build (hl : ∀ name text, lookup name = some text → isValue text.toList = true)
    (he : (Table.build m h lookup).value[k]? = some e) : isValue e.value.toList = true := by
  have hprint : ∀ a : Address, isValue (String.ofList a.print).toList = true := by
    intro a
    rw [String.toList_ofList]
    exact a.isValue_print
  rcases build_cases he with ⟨w, -, rfl⟩ | ⟨i, -, f, n, a, -, -, rfl⟩ | ⟨a, -, -, rfl⟩
  · show isValue (w.value m lookup).toList = true
    unfold WellKnown.value
    cases m.get w with
    | some a => exact hprint a
    | none =>
      cases htext : lookup w.variableName with
      | none => decide
      | some text => exact hl _ _ htext
  · exact hprint a
  · exact hprint a

/-- A name that cannot be written is that of an address, of an interface that is not plain. -/
theorem exists_of_not_isName (he : (Table.build m h lookup).value[k]? = some e)
    (hbad : isName e.name.toList ≠ true) :
    e.value ≠ "" ∧ ∃ i ∈ h.interfaceList.value, ¬ i.IsPlain ∧
      ∃ f n, i.addressesOf f ≠ [] ∧ e.name = i.variableName f n := by
  rcases build_cases he with ⟨w, -, rfl⟩ | ⟨i, hi, f, n, a, hn, -, rfl⟩ | ⟨a, -, -, rfl⟩
  · exact absurd (isName_wellKnown w) hbad
  · refine ⟨fun hempty => a.print_ne_nil ?_, i, hi, fun hplain => hbad ?_, f, n, ?_, rfl⟩
    · simpa using hempty
    · exact isName_variableName_iff.2 hplain
    · exact List.ne_nil_of_mem (List.mem_of_getElem? hn)
  · exact absurd (show isName defaultVariable.toList = true by decide) hbad

/-- **The names of a table can be written** when no variable is named after an interface that is not
plain. -/
theorem wellNamed_build_iff (m : Metadata) (h : Host) (lookup : Lookup) :
    (Table.build m h lookup).value.WellNamed ↔
      ∀ i ∈ h.interfaceList.value, (Table.build m h lookup).value.NamedAfter i → i.IsPlain := by
  constructor
  · rintro hnames i - ⟨k, e, f, n, he, hn⟩
    have hname := hnames k e he
    rw [hn] at hname
    exact isName_variableName_iff.1 hname
  · intro hplain k e he
    by_contra hbad
    obtain ⟨-, i, hi, hnot, f, n, -, hn⟩ := exists_of_not_isName he hbad
    exact hnot (hplain i hi ⟨k, e, f, n, he, hn⟩)

/-- The file of a table passes its check when all names of the table can be written. -/
theorem check_build_iff (hl : ∀ name text, lookup name = some text → isValue text.toList = true)
    {f : EnvFile} (hf : EnvFile.ofTable? (Table.build m h lookup).value = some f) :
    f.check = .ok () ↔ (Table.build m h lookup).value.WellNamed := by
  rw [EnvFile.check_eq_ok_iff, EnvFile.vars_of_ofTable? hf]
  constructor
  · intro hvars k e he
    by_contra hbad
    have hvalue := (exists_of_not_isName he hbad).1
    have hget := EnvFile.getElem?_variablesOf (apart_build m h lookup) he
    rw [if_neg hvalue, ← Std.ExtTreeMap.mem_toList_iff_getElem?_eq_some] at hget
    exact hbad (hvars _ hget).1
  · intro hnames v hv
    obtain ⟨k, e, he, hn, hval⟩ := EnvFile.exists_of_mem_variablesOf hv
    rw [← hn, ← hval]
    exact ⟨hnames k e he, isValue_build hl he⟩

/-- A name that cannot be written has a value, so there is a file for it. -/
theorem exists_file_of_not_wellNamed (hnot : ¬ (Table.build m h lookup).value.WellNamed) :
    ∃ f, EnvFile.ofTable? (Table.build m h lookup).value = some f := by
  unfold Table.WellNamed at hnot
  push Not at hnot
  obtain ⟨k, e, he, hbad⟩ := hnot
  refine Option.ne_none_iff_exists'.1 fun hnone => ?_
  exact (exists_of_not_isName he hbad).1 (EnvFile.ofTable?_eq_none_iff.1 hnone k e he)

/-- **What a file is refused for** is a name from an interface that is not plain. -/
theorem exists_badName_of_not_wellNamed
    (hl : ∀ name text, lookup name = some text → isValue text.toList = true)
    (hnot : ¬ (Table.build m h lookup).value.WellNamed) {f : EnvFile}
    (hf : EnvFile.ofTable? (Table.build m h lookup).value = some f) :
    ∃ i ∈ h.interfaceList.value, ¬ i.IsPlain ∧ ∃ family n,
      f.check = .error (.badName (i.variableName family n)) := by
  have hvars := EnvFile.vars_of_ofTable? hf
  have hvalues : ∀ v ∈ f.vars.toList, isValue v.2.toList = true := by
    intro v hv
    rw [hvars] at hv
    obtain ⟨k, e, he, -, hval⟩ := EnvFile.exists_of_mem_variablesOf hv
    exact hval ▸ isValue_build hl he
  have hcheck := mt (check_build_iff hl hf).1 hnot
  obtain ⟨v, hv, hbad, hrefused⟩ := EnvFile.exists_badName hvalues hcheck
  rw [hvars] at hv
  -- the variable goes back to an entry of the table, and that to an interface
  obtain ⟨k, e, he, hn, -⟩ := EnvFile.exists_of_mem_variablesOf hv
  have hname : isName e.name.toList ≠ true := by rw [hn, hbad]; decide
  obtain ⟨-, i, hi, hplain, family, n, -, hname⟩ := exists_of_not_isName he hname
  refine ⟨i, hi, hplain, family, n, ?_⟩
  rw [hrefused, ← hn, hname]

/-- **When a table can be written.** Let the variables of the environment fit on a line. If every
interface with a readable address is plain, all names of a built table are made of ASCII letters,
digits and underscores. They are so exactly when every interface that a variable is named after is
plain, and exactly when the file, if there is one, can be written, alone and into every text.
Otherwise there is a file, and it is refused for a name that comes from an interface that is not
plain. -/
theorem writable_build_iff (m : Metadata) (h : Host) (lookup : Lookup)
    (hl : ∀ name text, lookup name = some text → isValue text.toList = true) :
    ((∀ i ∈ h.interfaceList.value, (∃ family, i.addressesOf family ≠ []) → i.IsPlain) →
      (Table.build m h lookup).value.WellNamed) ∧
    ((Table.build m h lookup).value.WellNamed ↔
      ∀ i ∈ h.interfaceList.value, (Table.build m h lookup).value.NamedAfter i → i.IsPlain) ∧
    ((Table.build m h lookup).value.WellNamed ↔
      ∀ f, EnvFile.ofTable? (Table.build m h lookup).value = some f → f.Writable) ∧
    (¬ (Table.build m h lookup).value.WellNamed →
      ∃ f, EnvFile.ofTable? (Table.build m h lookup).value = some f ∧
        ∃ i ∈ h.interfaceList.value, ¬ i.IsPlain ∧ ∃ family n,
          f.render = .error (.badName (i.variableName family n)) ∧
          ∀ existing, f.merge existing = .error (.badName (i.variableName family n))) := by
  refine ⟨fun hplain k e he => ?_, wellNamed_build_iff m h lookup,
    ⟨fun hnames f hf => ?_, fun hwrite => ?_⟩, fun hnot => ?_⟩
  · by_contra hbad
    obtain ⟨-, i, hi, hnot, family, n, haddr, -⟩ := exists_of_not_isName he hbad
    exact hnot (hplain i hi ⟨family, haddr⟩)
  · exact EnvFile.writable_iff_check.2 ((check_build_iff hl hf).2 hnames)
  · by_contra hnot
    obtain ⟨f, hf⟩ := exists_file_of_not_wellNamed hnot
    exact hnot ((check_build_iff hl hf).1 (EnvFile.writable_iff_check.1 (hwrite f hf)))
  · obtain ⟨f, hf⟩ := exists_file_of_not_wellNamed hnot
    obtain ⟨i, hi, hplain, family, n, hcheck⟩ := exists_badName_of_not_wellNamed hl hnot hf
    exact ⟨f, hf, i, hi, hplain, family, n, EnvFile.refused_of_check hcheck⟩

/-- A host with one interface, which has one address. -/
def hostOf (name : String) : Host where
  interfaces := .ok [⟨name, ["10.0.0.1/24"]⟩]
  routes := pure (.ok [])

/-- An interface with a dot in its name leaves a file that can be written. -/
theorem writable_build_dotted :
    ∃ f, EnvFile.ofTable? (Table.build Metadata.empty (hostOf "eth0.100") Lookup.unset).value =
      some f ∧ f.Writable := by
  have hl : ∀ name text, Lookup.unset name = some text → isValue text.toList = true := by
    intro name text h
    exact absurd h (by simp [Lookup.unset])
  have hlist : (hostOf "eth0.100").interfaceList.value = [⟨"eth0.100", ["10.0.0.1/24"]⟩] := by
    decide +kernel
  have hplain : ∀ i ∈ (hostOf "eth0.100").interfaceList.value, i.IsPlain := by
    rw [hlist, List.forall_mem_singleton]
    decide +kernel
  have hsome : (EnvFile.ofTable?
      (Table.build Metadata.empty (hostOf "eth0.100") Lookup.unset).value).isSome = true := by
    decide +kernel
  have hiff := writable_build_iff Metadata.empty (hostOf "eth0.100") Lookup.unset hl
  obtain ⟨f, hf⟩ := Option.isSome_iff_exists.1 hsome
  exact ⟨f, hf, hiff.2.2.1.1 (hiff.1 fun i hi _ => hplain i hi) f hf⟩

/-- An interface with a dash in its name makes the file one that is refused. -/
theorem render_build_dashed :
    (Table.build Metadata.empty (hostOf "br-lan") Lookup.unset).value["$iface_br-lan_ipv4"]? =
        some ⟨"IFACE_BR-LAN_IPV4", "10.0.0.1"⟩ ∧
      (EnvFile.ofTable? (Table.build Metadata.empty (hostOf "br-lan") Lookup.unset).value).map
        EnvFile.render = some (.error (.badName "IFACE_BR-LAN_IPV4")) := by
  decide +kernel

end BootEnv
