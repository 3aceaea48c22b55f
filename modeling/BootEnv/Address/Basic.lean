/-!
# Internet addresses

* `V4`: four octets. `V6`: eight groups of sixteen bits. `Address`: either.
* `V6.mapped?`: the IPv4 address that an IPv6 address stands for, when it is one of
  `::ffff:a.b.c.d`.
* `Address.unmapped`: **an IPv4-mapped address counts as the IPv4 address itself**.
-/

namespace BootEnv

/-- An IPv4 address, first octet first. -/
structure V4 where
  a : UInt8
  b : UInt8
  c : UInt8
  d : UInt8
  deriving Repr, DecidableEq

/-- An IPv6 address as its eight groups, most significant first. -/
structure V6 where
  groups : List UInt16
  length_groups : groups.length = 8
  deriving Repr, DecidableEq

/-- An Internet address of either family. -/
inductive Address where
  | v4 (address : V4)
  | v6 (address : V6)
  deriving Repr, DecidableEq

/-- The family of an address. -/
inductive Family where
  | v4
  | v6
  deriving Repr, DecidableEq

/-- Two octets as one group. -/
def V6.groupOf (high low : UInt8) : UInt16 := high.toUInt16 <<< 8 ||| low.toUInt16

/-- The two groups that hold the four octets. -/
def V4.groups (v : V4) : List UInt16 := [V6.groupOf v.a v.b, V6.groupOf v.c v.d]

/-- The IPv4 address in two groups. -/
def V4.ofGroups (high low : UInt16) : V4 :=
  ⟨(high >>> 8).toUInt8, high.toUInt8, (low >>> 8).toUInt8, low.toUInt8⟩

/-- The octets of two groups, by division. -/
theorem V4.ofGroups_eq (h l : UInt16) : V4.ofGroups h l =
    ⟨(h / 256).toUInt8, (h % 256).toUInt8, (l / 256).toUInt8, (l % 256).toUInt8⟩ := by
  have hhigh : ∀ g : UInt16, (g >>> 8).toUInt8 = (g / 256).toUInt8 := by
    intro g
    apply UInt8.toNat_inj.1
    rw [UInt16.toNat_toUInt8, UInt16.toNat_toUInt8, UInt16.toNat_shiftRight,
      Nat.shiftRight_eq_div_pow, UInt16.toNat_div]
    rfl
  have hlow : ∀ g : UInt16, g.toUInt8 = (g % 256).toUInt8 := by
    intro g
    apply UInt8.toNat_inj.1
    rw [UInt16.toNat_toUInt8, UInt16.toNat_toUInt8, UInt16.toNat_mod]
    exact (Nat.mod_mod _ _).symm
  unfold V4.ofGroups
  rw [hhigh, hhigh, hlow h, hlow l]

/-- The address with the given groups, when there are eight. -/
def V6.ofGroups? (groups : List UInt16) : Option V6 :=
  if h : groups.length = 8 then some ⟨groups, h⟩ else none

@[simp] theorem V6.ofGroups?_groups (v : V6) : V6.ofGroups? v.groups = some v := by
  simp [V6.ofGroups?, v.length_groups]

/-- The IPv4 address `a.b.c.d` behind `::ffff:a.b.c.d`. -/
def V6.mapped? (v : V6) : Option V4 :=
  match v.groups with
  | [0, 0, 0, 0, 0, 0xFFFF, high, low] => some (V4.ofGroups high low)
  | _ => none

namespace Address

/-- The family of an address. -/
def family : Address → Family
  | v4 _ => .v4
  | v6 _ => .v6

/-- The number of bits of an address. -/
def width : Address → Nat
  | v4 _ => 32
  | v6 _ => 128

/-- The address itself, with an IPv4-mapped one turned into IPv4. -/
def unmapped : Address → Address
  | v4 v => v4 v
  | v6 v =>
    match v.mapped? with
    | some w => v4 w
    | none => v6 v

@[simp] theorem unmapped_v4 (v : V4) : unmapped (v4 v) = v4 v := rfl

theorem unmapped_v6_of_mapped? {v : V6} {w : V4} (h : v.mapped? = some w) :
    unmapped (v6 v) = v4 w := by
  simp [unmapped, h]

theorem unmapped_v6_of_not_mapped {v : V6} (h : v.mapped? = none) : unmapped (v6 v) = v6 v := by
  simp [unmapped, h]

/-- An address that was unmapped is no longer IPv4-mapped. -/
theorem unmapped_unmapped (x : Address) : x.unmapped.unmapped = x.unmapped := by
  cases x with
  | v4 v => rfl
  | v6 v =>
    cases h : v.mapped? with
    | none => simp [unmapped_v6_of_not_mapped h]
    | some w => simp [unmapped_v6_of_mapped? h]

end Address

end BootEnv
