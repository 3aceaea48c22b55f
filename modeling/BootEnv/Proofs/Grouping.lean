import BootEnv.Proofs.Build
import Mathlib.Data.List.Sort

/-!
# Interfaces by name

A host may list an interface several times, with others in between. The survey puts the entries of one
name together, in the order in which they come, and lists the names in ascending order. So what it
gives depends on nothing but which names there are and, for each of them, on the addresses under it.

* `AddressMap.getElem?_add`: what one more entry does to the addresses known so far.
* `AddressMap.getElem?_foldl_add`: **and what a list of them does.**
* `Groups`: the list of interfaces that belongs to given entries, and `Groups.unique`: there is no
  other.
* `foldInterfaces_congr`: **entries with the same addresses under each name give the same list.**
* `interfaceList_groups`: the survey of a host, and the changes to its entries that do not show.
-/

namespace BootEnv

/-- The addresses of all entries with a name, one entry after the other. -/
def addressesNamed (raw : List Interface) (name : String) : List String :=
  (raw.filter (·.name = name)).flatMap (·.addresses)

/-- The list has each name of the entries once, in the order of code points, with all the addresses
under that name. -/
structure Groups (raw l : List Interface) : Prop where
  ascending : l.Pairwise (·.name < ·.name)
  names : ∀ name, name ∈ l.map (·.name) ↔ name ∈ raw.map (·.name)
  addresses : ∀ i ∈ l, i.addresses = addressesNamed raw i.name

variable {raw raw' l l' : List Interface} {m : AddressMap} {i : Interface} {name : String}

section Named

theorem addressesNamed_append (a b : List Interface) (name : String) :
    addressesNamed (a ++ b) name = addressesNamed a name ++ addressesNamed b name := by
  unfold addressesNamed
  rw [List.filter_append, List.flatMap_append]

theorem addressesNamed_cons_self (i : Interface) (raw : List Interface) :
    addressesNamed (i :: raw) i.name = i.addresses ++ addressesNamed raw i.name := by
  simp [addressesNamed]

theorem addressesNamed_cons_of_ne (h : i.name ≠ name) (raw : List Interface) :
    addressesNamed (i :: raw) name = addressesNamed raw name := by
  simp [addressesNamed, h]

theorem mem_names_iff : name ∈ raw.map (·.name) ↔ raw.filter (·.name = name) ≠ [] := by
  rw [List.mem_map, ne_eq, List.filter_eq_nil_iff]
  push Not
  simp

end Named

section Fold

/-- **One more entry**: its addresses come behind those under its name, and no other name changes. -/
theorem AddressMap.getElem?_add (m : AddressMap) (i : Interface) (name : String) :
    (m.add i)[name]? =
      if i.name = name then some (m[i.name]?.getD [] ++ i.addresses) else m[name]? := by
  unfold add
  rw [Std.ExtTreeMap.getElem?_insert, Std.ExtTreeMap.getD_eq_getD_getElem?]
  simp only [Std.compare_eq_iff_eq]

/-- **A list of entries**: under each of their names stand the addresses known before and then all
those under that name, entry by entry. -/
theorem AddressMap.getElem?_foldl_add (raw : List Interface) (m : AddressMap) (name : String) :
    (raw.foldl add m)[name]? =
      if name ∈ raw.map (·.name) then some (m[name]?.getD [] ++ addressesNamed raw name)
      else m[name]? := by
  induction raw generalizing m with
  | nil => simp
  | cons i raw ih =>
    rw [List.foldl_cons, ih, getElem?_add]
    by_cases h : i.name = name
    · subst h
      rw [addressesNamed_cons_self]
      by_cases hmem : i.name ∈ raw.map (·.name)
      · simp [hmem]
      · have hnone : addressesNamed raw i.name = [] := by
          have hfilter := not_not.1 (mt mem_names_iff.2 hmem)
          simp [addressesNamed, hfilter]
        simp [hmem, hnone]
    · have hne : name ≠ i.name := fun he => h he.symm
      rw [addressesNamed_cons_of_ne h, if_neg h]
      simp [hne]

theorem mem_foldInterfaces :
    i ∈ foldInterfaces raw ↔
      i.name ∈ raw.map (·.name) ∧ i.addresses = addressesNamed raw i.name := by
  have hmem : i ∈ foldInterfaces raw ↔ (raw.foldl AddressMap.add ∅)[i.name]? = some i.addresses := by
    unfold foldInterfaces
    rw [← Std.ExtTreeMap.mem_toList_iff_getElem?_eq_some, List.mem_map]
    constructor
    · rintro ⟨p, hp, rfl⟩
      exact hp
    · intro hp
      exact ⟨_, hp, rfl⟩
  rw [hmem, AddressMap.getElem?_foldl_add]
  simp [eq_comm]

/-- The fold by name is the list that belongs to the entries. -/
theorem groups_foldInterfaces (raw : List Interface) : Groups raw (foldInterfaces raw) where
  ascending := pairwise_interfaceList ⟨.ok raw, pure (.ok [])⟩
  names := by
    intro name
    rw [List.mem_map]
    constructor
    · rintro ⟨i, hi, rfl⟩
      exact (mem_foldInterfaces.1 hi).1
    · intro hname
      exact ⟨⟨name, addressesNamed raw name⟩, mem_foldInterfaces.2 ⟨hname, rfl⟩, rfl⟩
  addresses := fun _ hi => (mem_foldInterfaces.1 hi).2

end Fold

section Unique

/-- A list that belongs to the entries is made from its names. -/
theorem Groups.eq_map (h : Groups raw l) :
    l = (l.map (·.name)).map fun name => ⟨name, addressesNamed raw name⟩ := by
  have hself : ∀ i ∈ l, (⟨i.name, addressesNamed raw i.name⟩ : Interface) = i := by
    intro i hi
    rw [← h.addresses i hi]
  rw [List.map_map]
  exact ((List.map_congr_left hself).trans (List.map_id l)).symm

/-- **Only one list belongs to given entries.** -/
theorem Groups.unique (h : Groups raw l) (h' : Groups raw l') : l = l' := by
  have hnames : l.map (·.name) = l'.map (·.name) := by
    have hsorted := List.pairwise_map.2 h.ascending
    have hsorted' := List.pairwise_map.2 h'.ascending
    refine hsorted.eq_of_mem_iff hsorted' fun name => ?_
    rw [h.names, h'.names]
  rw [h.eq_map, h'.eq_map, hnames]

/-- **Entries with the same names, and the same addresses under each of them, give the same list.** -/
theorem foldInterfaces_congr (hnames : ∀ name, name ∈ raw.map (·.name) ↔ name ∈ raw'.map (·.name))
    (haddresses : ∀ name, addressesNamed raw name = addressesNamed raw' name) :
    foldInterfaces raw = foldInterfaces raw' := by
  have h := groups_foldInterfaces raw
  have h' : Groups raw' (foldInterfaces raw) := by
    refine ⟨h.ascending, fun name => ?_, fun i hi => ?_⟩
    · rw [h.names, hnames]
    · rw [h.addresses i hi, haddresses]
  exact h'.unique (groups_foldInterfaces raw')

end Unique

section Changes

/-- **The order among entries of different names does not matter.** -/
theorem foldInterfaces_of_filter
    (h : ∀ name, raw.filter (·.name = name) = raw'.filter (·.name = name)) :
    foldInterfaces raw = foldInterfaces raw' := by
  refine foldInterfaces_congr (fun name => ?_) fun name => ?_
  · rw [mem_names_iff, mem_names_iff, h]
  · unfold addressesNamed
    rw [h]

/-- The parts of an entry's addresses, each under the entry's name. -/
def partsOf (name : String) (parts : List (List String)) : List Interface :=
  parts.map fun addresses => ⟨name, addresses⟩

theorem addressesNamed_partsOf (n name : String) (parts : List (List String)) :
    addressesNamed (partsOf n parts) name = addressesNamed [⟨n, parts.flatten⟩] name := by
  by_cases h : n = name
  · subst h
    induction parts with
    | nil => simp [partsOf, addressesNamed]
    | cons p parts ih => simp_all [partsOf, addressesNamed]
  · rw [addressesNamed_cons_of_ne h]
    simp [partsOf, addressesNamed, h]

/-- **An entry may come in parts**, one after the other. -/
theorem foldInterfaces_parts (front back : List Interface) (n : String) {parts : List (List String)}
    (hparts : parts ≠ []) :
    foldInterfaces (front ++ partsOf n parts ++ back) =
      foldInterfaces (front ++ ⟨n, parts.flatten⟩ :: back) := by
  have hcons : ∀ i : Interface, i :: back = [i] ++ back := fun _ => rfl
  refine foldInterfaces_congr (fun name => ?_) fun name => ?_
  · have hsame : name ∈ (partsOf n parts).map (·.name) ↔ name = n := by
      obtain ⟨p, parts, rfl⟩ := List.exists_cons_of_ne_nil hparts
      simp +contextual [partsOf, eq_comm]
    simp [hsame]
  · rw [hcons, ← List.append_assoc]
    simp only [addressesNamed_append, addressesNamed_partsOf]

/-- A list that is in order and has each name once is left as it is. -/
theorem foldInterfaces_foldInterfaces (raw : List Interface) :
    foldInterfaces (foldInterfaces raw) = foldInterfaces raw := by
  have h := groups_foldInterfaces raw
  refine Groups.unique (groups_foldInterfaces _) ⟨h.ascending, fun _ => Iff.rfl, fun i hi => ?_⟩
  -- no other entry has this name, so the addresses under it are those of the entry
  have hfilter : (foldInterfaces raw).filter (·.name = i.name) = [i] := by
    obtain ⟨front, back, hl⟩ := List.append_of_mem hi
    have hsorted := h.ascending
    rw [hl, List.pairwise_append, List.pairwise_cons] at hsorted
    obtain ⟨-, ⟨hback, -⟩, hfront⟩ := hsorted
    have hnone : ∀ j ∈ front, j.name ≠ i.name :=
      fun j hj => (hfront j hj i List.mem_cons_self).ne
    have hnone' : ∀ j ∈ back, j.name ≠ i.name := fun j hj => (hback j hj).ne'
    rw [hl, List.filter_append, List.filter_cons_of_pos (by simp),
      List.filter_eq_nil_iff.2 (by simpa using hnone),
      List.filter_eq_nil_iff.2 (by simpa using hnone')]
    rfl
  simp [addressesNamed, hfilter]

end Changes

/-- With the same routes, the two lists of entries give the same survey and the same tables,
everything reported included. -/
def SameSurvey (raw raw' : List Interface) : Prop :=
  ∀ routes : Reported (Except Fault (List Route)),
    Host.interfaceList ⟨.ok raw, routes⟩ = Host.interfaceList ⟨.ok raw', routes⟩ ∧
    ∀ (m : Metadata) (lookup : Lookup),
      Table.build m ⟨.ok raw, routes⟩ lookup = Table.build m ⟨.ok raw', routes⟩ lookup

theorem sameSurvey_of_foldInterfaces (h : foldInterfaces raw = foldInterfaces raw') :
    SameSurvey raw raw' := by
  intro routes
  have hlist : Host.interfaceList ⟨.ok raw, routes⟩ = Host.interfaceList ⟨.ok raw', routes⟩ := by
    unfold Host.interfaceList
    dsimp only
    rw [h]
  refine ⟨hlist, fun m lookup => ?_⟩
  unfold Table.build
  rw [hlist]
  rfl

/-- **The survey of a host's interfaces.** When a host lists its entries, the survey is the one list
that has each of their names once, in ascending order, with all the addresses under it in the order of
the entries; an interface without addresses is among them, and nothing is reported. Entries may change
places with entries of other names, and one entry may come in several parts, without any change to
the survey or to a table built on it. And a survey that is surveyed again stays as it is. -/
theorem interfaceList_groups (raw : List Interface) (routes : Reported (Except Fault (List Route))) :
    (Groups raw (Host.interfaceList ⟨.ok raw, routes⟩).value ∧
      (∀ l, Groups raw l → l = (Host.interfaceList ⟨.ok raw, routes⟩).value) ∧
      (Host.interfaceList ⟨.ok raw, routes⟩).events = []) ∧
    (∀ raw', (∀ name, raw.filter (·.name = name) = raw'.filter (·.name = name)) →
      SameSurvey raw raw') ∧
    (∀ front n parts back, parts ≠ [] → raw = front ++ ⟨n, parts.flatten⟩ :: back →
      SameSurvey raw (front ++ partsOf n parts ++ back)) ∧
    Host.interfaceList ⟨.ok (Host.interfaceList ⟨.ok raw, routes⟩).value, routes⟩ =
      Host.interfaceList ⟨.ok raw, routes⟩ := by
  have hvalue : (Host.interfaceList ⟨.ok raw, routes⟩).value = foldInterfaces raw := rfl
  rw [hvalue]
  refine ⟨⟨groups_foldInterfaces raw, fun l hl => ?_, rfl⟩, fun raw' h => ?_, ?_, ?_⟩
  · exact hl.unique (groups_foldInterfaces raw)
  · exact sameSurvey_of_foldInterfaces (foldInterfaces_of_filter h)
  · rintro front n parts back hparts rfl
    exact sameSurvey_of_foldInterfaces (foldInterfaces_parts front back n hparts).symm
  · exact (sameSurvey_of_foldInterfaces (foldInterfaces_foldInterfaces raw) routes).1

/-- One interface listed twice, around another: its second entry may come first after it, and its
first one in two parts. -/
theorem interfaceList_groups_scattered :
    SameSurvey [⟨"eth1", ["a", "b"]⟩, ⟨"eth0", []⟩, ⟨"eth1", ["c"]⟩]
        [⟨"eth1", ["a", "b"]⟩, ⟨"eth1", ["c"]⟩, ⟨"eth0", []⟩] ∧
      SameSurvey [⟨"eth1", ["a", "b"]⟩, ⟨"eth0", []⟩, ⟨"eth1", ["c"]⟩]
        [⟨"eth1", ["a"]⟩, ⟨"eth1", ["b"]⟩, ⟨"eth0", []⟩, ⟨"eth1", ["c"]⟩] := by
  obtain ⟨-, hreorder, hparts, -⟩ := interfaceList_groups
    [⟨"eth1", ["a", "b"]⟩, ⟨"eth0", []⟩, ⟨"eth1", ["c"]⟩] (pure (.ok []))
  refine ⟨hreorder _ fun name => ?_, hparts [] "eth1" [["a"], ["b"]] _ (by decide) rfl⟩
  by_cases h0 : "eth0" = name
  · subst h0
    rfl
  · simp only [List.filter_cons, h0, decide_false, Bool.false_eq_true, if_false]

end BootEnv
