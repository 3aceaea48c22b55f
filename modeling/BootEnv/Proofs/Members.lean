import BootEnv.Metadata.Reader
import Mathlib.Data.List.Basic
import Mathlib.Tactic.Common

/-!
# The members of an object as metadata takes them

Members come one after the other. One with the name of a field must be the first of its name and say an
address or nothing; any other is passed over. So what comes of a list of members can be said without
their order: it is taken when no field is named twice and none has a bad value, and then every field has
what its member says.

* `addMember?`: what one more member does to the fields before it.
* `lookup_addMembers`: **a field has what some member of its name says.**
* `Fits`, `exists_addMembers_nil_iff`: **which lists of members are taken.**
* `fits_congr`: members of other names and the order of the members have no part in that.
-/

namespace BootEnv

/-- Different fields have different names. -/
theorem WellKnown.member_inj {w x : WellKnown} (h : w.member.toList = x.member.toList) : w = x := by
  have hall : ∀ w x : WellKnown, w.member.toList = x.member.toList → w = x := by
    intro w x
    cases w <;> cases x <;> decide
  exact hall w x h

namespace Metadata

variable {w : WellKnown} {a : Option Address} {name : List Char} {v : Json}
  {fields fields' : Fields} {members members' : List (List Char × Json)}

section Add

theorem field?_eq_some_iff : field? name = some w ↔ name = w.member.toList := by
  constructor
  · intro h
    have hname := List.find?_some h
    exact (of_decide_eq_true hname).symm
  · rintro rfl
    cases w <;> decide

theorem field?_eq_none_iff : field? name = none ↔ ∀ w : WellKnown, name ≠ w.member.toList := by
  simp only [Option.eq_none_iff_forall_ne_some, ne_eq, field?_eq_some_iff]

/-- The address that a value says, if it says one: null says none, and a string the one that it is
read as. Any other value is bad. -/
def addressOf? : Json → Option (Option Address)
  | .null => some none
  | .string s => (Address.parse? s).map some
  | _ => none

/-- One more member: its name must be new if it is that of a field, and its value good. Members of
other names do not matter. -/
def addMember? (fields : Fields) (m : List Char × Json) : Option Fields :=
  match field? m.1 with
  | some w =>
    if (fields.lookup w).isSome then none else (addressOf? m.2).map fun a => (w, a) :: fields
  | none => some fields

theorem addMember?_field (fields : Fields) (w : WellKnown) (v : Json) :
    addMember? fields (w.member.toList, v) =
      if (fields.lookup w).isSome then none else (addressOf? v).map fun a => (w, a) :: fields := by
  unfold addMember?
  rw [field?_eq_some_iff.2 rfl]

theorem addMember?_foreign (h : ∀ w : WellKnown, name ≠ w.member.toList) :
    addMember? fields (name, v) = some fields := by
  unfold addMember?
  rw [field?_eq_none_iff.2 h]

theorem lookup_cons_of_ne {x : WellKnown} (h : w ≠ x) (b : Option Address) (fields : Fields) :
    List.lookup w ((x, b) :: fields) = fields.lookup w := by
  rw [List.lookup_cons, beq_false_of_ne h]

/-- **What one more member does.** One of a field is added when the field is new and the value good, and
other members are passed over. -/
theorem addMember?_eq_some_iff : addMember? fields (name, v) = some fields' ↔
    (∃ w a, name = w.member.toList ∧ fields.lookup w = none ∧ addressOf? v = some a ∧
      fields' = (w, a) :: fields) ∨
    (∀ w : WellKnown, name ≠ w.member.toList) ∧ fields' = fields := by
  by_cases hforeign : ∀ w : WellKnown, name ≠ w.member.toList
  · rw [addMember?_foreign hforeign, Option.some.injEq]
    constructor
    · rintro rfl
      exact .inr ⟨hforeign, rfl⟩
    · rintro (⟨w, a, hname, -⟩ | ⟨-, rfl⟩)
      · exact absurd hname (hforeign w)
      · rfl
  · obtain ⟨x, rfl⟩ : ∃ x : WellKnown, name = x.member.toList := by simpa using hforeign
    rw [addMember?_field]
    constructor
    · intro h
      split at h
      next => exact absurd h (by simp)
      next hnew =>
        obtain ⟨a, ha, rfl⟩ := Option.map_eq_some_iff.1 h
        exact .inl ⟨x, a, rfl, Option.not_isSome_iff_eq_none.1 hnew, ha, rfl⟩
    · rintro (⟨w, a, hname, hnew, ha, rfl⟩ | ⟨hne, -⟩)
      · obtain rfl := WellKnown.member_inj hname
        rw [if_neg (by simp [hnew]), ha]
        rfl
      · exact absurd rfl (hne x)

/-- **One more member leaves the other fields as they are.** -/
theorem lookup_addMember? (h : addMember? fields (name, v) = some fields') (w : WellKnown)
    (a : Option Address) :
    fields'.lookup w = some a ↔
      fields.lookup w = some a ∨ name = w.member.toList ∧ addressOf? v = some a := by
  rcases addMember?_eq_some_iff.1 h with ⟨x, b, rfl, hnew, hb, rfl⟩ | ⟨hforeign, rfl⟩
  · by_cases hwx : w = x
    · subst hwx
      simp [hnew, hb]
    · have hname : x.member.toList ≠ w.member.toList := fun h => hwx (WellKnown.member_inj h).symm
      simp [lookup_cons_of_ne hwx, hname]
  · simp [hforeign w]

/-- **After all members a field has what some member of its name says.** -/
theorem lookup_addMembers (h : members.foldlM addMember? fields = some fields') (w : WellKnown)
    (a : Option Address) :
    fields'.lookup w = some a ↔
      fields.lookup w = some a ∨ ∃ v, (w.member.toList, v) ∈ members ∧ addressOf? v = some a := by
  induction members generalizing fields with
  | nil =>
    obtain rfl : fields = fields' := by simpa using h
    simp
  | cons m members ih =>
    obtain ⟨name, v⟩ := m
    rw [List.foldlM_cons] at h
    obtain ⟨middle, hmiddle, h⟩ := Option.bind_eq_some_iff.1 h
    rw [ih h, lookup_addMember? hmiddle, or_assoc]
    simp only [List.mem_cons, Prod.mk.injEq, or_and_right, exists_or, and_assoc, exists_and_left,
      exists_eq_left, eq_comm (a := name)]

/-- How often a field was there already. -/
def held (fields : Fields) (w : WellKnown) : ℕ := if (fields.lookup w).isSome then 1 else 0

theorem held_addMember? (h : addMember? fields (name, v) = some fields') (w : WellKnown) :
    held fields' w = held fields w + if name = w.member.toList then 1 else 0 := by
  unfold held
  rcases addMember?_eq_some_iff.1 h with ⟨x, b, rfl, hnew, hb, rfl⟩ | ⟨hforeign, rfl⟩
  · by_cases hwx : w = x
    · subst hwx
      simp [hnew]
    · have hname : x.member.toList ≠ w.member.toList := fun h => hwx (WellKnown.member_inj h).symm
      rw [lookup_cons_of_ne hwx, if_neg hname, Nat.add_zero]
  · simp [hforeign w]

/-- **All members are taken when no field comes twice and none has a bad value.** -/
theorem exists_addMembers_iff : (∃ fields', members.foldlM addMember? fields = some fields') ↔
    (∀ w, held fields w + (members.map Prod.fst).count w.member.toList ≤ 1) ∧
    ∀ (w : WellKnown) (v : Json), (w.member.toList, v) ∈ members → (addressOf? v).isSome := by
  induction members generalizing fields with
  | nil =>
    have hheld : ∀ w, held fields w ≤ 1 := by
      intro w
      unfold held
      split <;> omega
    simpa using hheld
  | cons m members ih =>
    obtain ⟨name, v⟩ := m
    have hcount : ∀ w : WellKnown, (((name, v) :: members).map Prod.fst).count w.member.toList =
        (members.map Prod.fst).count w.member.toList +
          if name = w.member.toList then 1 else 0 := by
      intro w
      rw [List.map_cons, List.count_cons]
      simp
    simp only [List.foldlM_cons, Option.bind_eq_bind, Option.bind_eq_some_iff, hcount]
    constructor
    · rintro ⟨fields', middle, hmiddle, h⟩
      obtain ⟨honce, hgood⟩ := ih.1 ⟨fields', h⟩
      refine ⟨fun w => ?_, fun w u hu => ?_⟩
      · have hheld := held_addMember? hmiddle w
        have := honce w
        omega
      · rcases List.mem_cons.1 hu with hu | hu
        · obtain ⟨rfl, rfl⟩ := Prod.mk.inj hu
          rcases addMember?_eq_some_iff.1 hmiddle with ⟨_, a, -, -, ha, -⟩ | ⟨hforeign, -⟩
          · simp [ha]
          · exact absurd rfl (hforeign w)
        · exact hgood w u hu
    · rintro ⟨honce, hgood⟩
      have hstep : ∃ middle, addMember? fields (name, v) = some middle := by
        by_cases hforeign : ∀ w : WellKnown, name ≠ w.member.toList
        · exact ⟨fields, addMember?_foreign hforeign⟩
        · obtain ⟨x, rfl⟩ : ∃ x : WellKnown, name = x.member.toList := by simpa using hforeign
          obtain ⟨a, ha⟩ := Option.isSome_iff_exists.1 (hgood x v List.mem_cons_self)
          have hnew : fields.lookup x = none := by
            have hx := honce x
            rw [if_pos rfl] at hx
            unfold held at hx
            split at hx
            next => omega
            next hnone => exact Option.not_isSome_iff_eq_none.1 hnone
          exact ⟨_, addMember?_eq_some_iff.2 (.inl ⟨x, a, rfl, hnew, ha, rfl⟩)⟩
      obtain ⟨middle, hmiddle⟩ := hstep
      have hrest : ∃ fields', members.foldlM addMember? middle = some fields' := by
        refine ih.2 ⟨fun w => ?_, fun w u hu => hgood w u (List.mem_cons_of_mem _ hu)⟩
        have := honce w
        have := held_addMember? hmiddle w
        omega
      obtain ⟨fields', hfields⟩ := hrest
      exact ⟨fields', middle, hmiddle, hfields⟩

end Add

section Fits

/-- The members are taken: no field is named twice, and each is null or an address. -/
structure Fits (members : List (List Char × Json)) : Prop where
  once : ∀ w : WellKnown, (members.map Prod.fst).count w.member.toList ≤ 1
  good : ∀ (w : WellKnown) (v : Json), (w.member.toList, v) ∈ members →
    v = .null ∨ ∃ s a, v = .string s ∧ Address.parse? s = some a

theorem isSome_addressOf? :
    (addressOf? v).isSome ↔ v = .null ∨ ∃ s a, v = .string s ∧ Address.parse? s = some a := by
  cases v <;> simp [addressOf?, Option.isSome_iff_exists]

theorem exists_addMembers_nil_iff :
    (∃ fields, members.foldlM addMember? [] = some fields) ↔ Fits members := by
  have hheld : ∀ w, held [] w = 0 := fun w => rfl
  simp only [exists_addMembers_iff, hheld, Nat.zero_add, isSome_addressOf?]
  exact ⟨fun ⟨honce, hgood⟩ => ⟨honce, hgood⟩, fun h => ⟨h.once, h.good⟩⟩

/-- The members that have the name of a field. -/
def fieldMembers (members : List (List Char × Json)) : List (List Char × Json) :=
  members.filter fun m => (field? m.1).isSome

theorem isSome_field? (w : WellKnown) : (field? w.member.toList).isSome = true := by
  rw [field?_eq_some_iff.2 rfl]
  rfl

theorem mem_fieldMembers :
    (w.member.toList, v) ∈ fieldMembers members ↔ (w.member.toList, v) ∈ members := by
  simp [fieldMembers, isSome_field?]

theorem count_fieldMembers (members : List (List Char × Json)) (w : WellKnown) :
    ((fieldMembers members).map Prod.fst).count w.member.toList =
      (members.map Prod.fst).count w.member.toList := by
  have hmap : (fieldMembers members).map Prod.fst =
      (members.map Prod.fst).filter fun name => (field? name).isSome := by
    rw [List.filter_map]
    rfl
  rw [hmap]
  exact List.count_filter (isSome_field? w)

theorem mem_congr (h : (fieldMembers members').Perm (fieldMembers members)) :
    (w.member.toList, v) ∈ members' ↔ (w.member.toList, v) ∈ members := by
  rw [← mem_fieldMembers, h.mem_iff, mem_fieldMembers]

/-- **Only the members of fields matter, and not their order.** -/
theorem fits_congr (h : (fieldMembers members').Perm (fieldMembers members)) :
    Fits members' ↔ Fits members := by
  have hcount : ∀ w : WellKnown, (members'.map Prod.fst).count w.member.toList =
      (members.map Prod.fst).count w.member.toList := by
    intro w
    rw [← count_fieldMembers members', (h.map Prod.fst).count_eq, count_fieldMembers]
  constructor
  · rintro ⟨honce, hgood⟩
    exact ⟨fun w => hcount w ▸ honce w, fun w v hv => hgood w v ((mem_congr h).2 hv)⟩
  · rintro ⟨honce, hgood⟩
    exact ⟨fun w => (hcount w).symm ▸ honce w, fun w v hv => hgood w v ((mem_congr h).1 hv)⟩

/-- A name that comes at most once has one value. -/
theorem eq_of_count_le_one {u : Json} (hcount : (members.map Prod.fst).count name ≤ 1)
    (hu : (name, u) ∈ members) (hv : (name, v) ∈ members) : u = v := by
  induction members with
  | nil => exact absurd hu List.not_mem_nil
  | cons m members ih =>
    have hlater : ∀ {v}, (name, v) ∈ members → 0 < (members.map Prod.fst).count name :=
      fun h => List.count_pos_iff.2 (List.mem_map_of_mem h)
    rw [List.map_cons, List.count_cons] at hcount
    rcases List.mem_cons.1 hu with rfl | hu'
    · rcases List.mem_cons.1 hv with hv' | hv'
      · exact (Prod.mk.inj hv').2.symm
      · have := hlater hv'
        rw [if_pos (beq_self_eq_true name)] at hcount
        omega
    · rcases List.mem_cons.1 hv with rfl | hv'
      · have := hlater hu'
        rw [if_pos (beq_self_eq_true name)] at hcount
        omega
      · exact ih (by omega) hu' hv'

end Fits

end Metadata

end BootEnv
