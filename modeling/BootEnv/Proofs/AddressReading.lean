import BootEnv.Address.Parser
import BootEnv.Proofs.AddressText

/-!
# Addresses read back from their text

Every address is read back from its canonical text. An IPv4 address is four runs of digits; the
groups of an IPv6 address are read up to the end of the text or to a double colon, which stands for
as many zero groups as are missing.

* `V4.read?_print`: **an IPv4 address is read back where no digit follows.**
* `V4.read?_eq_none_of_notMem`: without a full stop there is no IPv4 address, so groups are not
  mistaken for one.
* `V6.RunEnds`: what may stand behind a run of groups.
* `V6.readGroups_printGroups`: **groups are read back up to there.**
* `V6.eq_longestZeros`: what the double colon stands for.
* `V6.read?_print`, `Address.parse?_print`: **every address is read back from its text.**
-/

namespace BootEnv

variable {c : Char} {cs rest : List Char}

namespace V4

theorem readOctet?_decimal (o : UInt8) (hrest : NoDigit 10 rest) :
    readOctet? (decimal o.toNat ++ rest) = some (o, rest) := by
  have hlt : o.toNat < 256 := o.toNat_lt
  have hdigits : ∀ c ∈ decimal o.toNat, isDigit 10 c = true := fun c hc =>
    isDigit_of_mem_toDigits (by decide) (by decide) hc
  obtain ⟨htake, hdrop⟩ := takeWhile_append_of_noDigit hdigits hrest
  have hlen : (decimal o.toNat).length ≤ 3 :=
    (Nat.length_toDigits_le_iff (by decide) (by decide)).2 (by omega)
  -- a text of two digits or more is not that of zero
  have hzero : 1 < (decimal o.toNat).length → (decimal o.toNat).head? ≠ some '0' := by
    intro hone
    refine head?_toDigits (by decide) (by decide) fun h0 => ?_
    rw [h0] at hone
    exact absurd hone (by decide)
  have hvalue : Numeral.value? 10 (decimal o.toNat) = some o.toNat :=
    Numeral.value?_toDigits (by decide) (by decide) _
  have hne : decimal o.toNat ≠ [] := Nat.toDigits_ne_nil
  unfold readOctet?
  rw [htake, hdrop]
  dsimp only
  rw [if_neg (by simpa [hne, hlen] using hzero), hvalue, Option.filter_some_pos (by simpa using hlt)]
  simp

theorem readOctet?_eq_none (h : NoDigit 10 cs) : readOctet? cs = none := by
  unfold readOctet?
  rw [(takeWhile_of_noDigit h).1]
  rfl

theorem suffix_of_readOctet? {o : UInt8} (h : readOctet? cs = some (o, rest)) : rest <:+ cs := by
  unfold readOctet? at h
  dsimp only at h
  split at h
  · exact absurd h (by simp)
  · obtain ⟨n, -, hn⟩ := Option.map_eq_some_iff.1 h
    rw [← (Prod.mk.inj hn).2]
    exact List.dropWhile_suffix _

/-- **An IPv4 address is read back where no digit follows.** -/
theorem read?_print (v : V4) (hrest : NoDigit 10 rest) :
    read? (v.print ++ rest) = some (v, rest) := by
  have hdot : ∀ more, NoDigit 10 ('.' :: more) := fun _ => noDigit_cons (by decide)
  have hskip : ∀ more, expect? '.' ('.' :: more) = some more := fun _ => by simp [expect?]
  obtain ⟨a, b, c, d⟩ := v
  unfold V4.print read?
  simp only [List.append_assoc, List.cons_append, readOctet?_decimal _ (hdot _),
    readOctet?_decimal _ hrest, hskip, Option.bind_eq_bind, Option.bind_some, Option.pure_def]

theorem read?_eq_none (h : NoDigit 10 cs) : read? cs = none := by
  unfold read?
  rw [readOctet?_eq_none h]
  rfl

/-- **Without a full stop there is no IPv4 address.** -/
theorem read?_eq_none_of_notMem (h : '.' ∉ cs) : read? cs = none := by
  unfold read?
  cases ho : readOctet? cs with
  | none => rfl
  | some r =>
    -- what is behind the first octet holds no full stop either
    obtain ⟨o, rest⟩ := r
    have hdot : '.' ∉ rest := fun hmem => h ((suffix_of_readOctet? ho).mem hmem)
    have hnone : expect? '.' rest = none := by
      unfold expect?
      split
      · rfl
      next x xs =>
        rw [if_neg]
        rintro rfl
        exact hdot List.mem_cons_self
    simp [hnone]

end V4

namespace V6

variable {gs : List UInt16}

theorem readGroup?_hex (g : UInt16) (hrest : NoDigit 16 rest) :
    readGroup? (Nat.toDigits 16 g.toNat ++ rest) = some (g, rest) := by
  have hlt : g.toNat < 65536 := g.toNat_lt
  obtain ⟨htake, hdrop⟩ :=
    takeWhile_append_of_noDigit (fun c hc => isDigit_of_mem_hex (n := g.toNat) hc) hrest
  have hlen : (Nat.toDigits 16 g.toNat).length ≤ 4 :=
    (Nat.length_toDigits_le_iff (by decide) (by decide)).2 (by omega)
  have hne : Nat.toDigits 16 g.toNat ≠ [] := Nat.toDigits_ne_nil
  unfold readGroup?
  rw [htake, hdrop]
  dsimp only
  rw [if_neg (by simpa [hne] using hlen), Numeral.value?_toDigits (by decide) (by decide)]
  simp

theorem readGroup?_eq_none (h : NoDigit 16 cs) : readGroup? cs = none := by
  unfold readGroup?
  rw [(takeWhile_of_noDigit h).1]
  rfl

/-- What may stand behind a run of groups: nothing, or a double colon. -/
def RunEnds (rest : List Char) : Prop := rest = [] ∨ ∃ more, rest = ':' :: ':' :: more

theorem RunEnds.noDigit {b : ℕ} (hb : isDigit b ':' = false) (h : RunEnds rest) : NoDigit b rest := by
  obtain rfl | ⟨more, rfl⟩ := h
  · exact noDigit_nil
  · exact noDigit_cons hb

/-- No group is read from a text that starts with neither a digit nor a colon to be skipped. -/
theorem readGroups_of_noDigit {isFirst : Bool} {body : List Char}
    (hcolon : afterColon? isFirst cs = some body) (h : NoDigit 16 body) (room : ℕ) :
    readGroups room isFirst cs = ([], false, cs) := by
  -- no IPv4 address is read there either, since decimal digits are hexadecimal
  have h10 : NoDigit 10 body := by
    intro c hc
    rw [Bool.eq_false_iff]
    intro hd
    have hd16 : isDigit 16 c = true := isDigit_mono (by decide) hd
    rw [h c hc] at hd16
    exact absurd hd16 (by decide)
  cases room with
  | zero => rfl
  | succ room =>
    unfold readGroups
    rw [hcolon]
    simp only [V4.read?_eq_none h10, readGroup?_eq_none h, ite_self]

/-- **Behind a run of groups there are no more.** -/
theorem readGroups_of_runEnds (h : RunEnds rest) (isFirst : Bool) (room : ℕ) :
    readGroups room isFirst rest = ([], false, rest) := by
  obtain rfl | ⟨more, rfl⟩ := h
  · cases isFirst with
    | true => exact readGroups_of_noDigit rfl noDigit_nil room
    | false => cases room <;> rfl
  · have hdigit : ∀ more, NoDigit 16 (':' :: more) := fun _ => noDigit_cons (by decide)
    cases isFirst with
    | true => exact readGroups_of_noDigit rfl (hdigit _) room
    | false =>
      have hcolon : afterColon? false (':' :: ':' :: more) = some (':' :: more) := by
        simp [afterColon?, expect?]
      exact readGroups_of_noDigit hcolon (hdigit _) room

/-- Groups, each behind a colon. -/
def printBehind (gs : List UInt16) : List Char := gs.flatMap fun g => ':' :: Nat.toDigits 16 g.toNat

theorem printGroups_cons (g : UInt16) (gs : List UInt16) :
    printGroups (g :: gs) = Nat.toDigits 16 g.toNat ++ printBehind gs := by
  induction gs generalizing g with
  | nil => simp [printGroups, printBehind]
  | cons h gs ih => simp [printGroups, printBehind, ih h]

theorem readGroups_printBehind_step {isFirst : Bool} {room : ℕ} {g : UInt16}
    (hcolon : afterColon? isFirst cs = some (Nat.toDigits 16 g.toNat ++ rest))
    (hrest : NoDigit 16 rest) (hdot : '.' ∉ rest) :
    readGroups (room + 1) isFirst cs =
      (g :: (readGroups room false rest).1, (readGroups room false rest).2) := by
  -- an IPv4 address is tried before a group, and is not found
  have hbody : '.' ∉ Nat.toDigits 16 g.toNat ++ rest := by
    rw [List.mem_append]
    rintro (h | h)
    · exact absurd (isDigit_of_mem_hex h) (by decide)
    · exact hdot h
  conv_lhs => unfold readGroups
  rw [hcolon]
  simp only [V4.read?_eq_none_of_notMem hbody, readGroup?_hex g hrest, ite_self]

theorem noDigit_printBehind (gs : List UInt16) (hrest : RunEnds rest) :
    NoDigit 16 (printBehind gs ++ rest) := by
  cases gs with
  | nil => exact hrest.noDigit (by decide)
  | cons g gs => exact noDigit_cons (by decide)

theorem dot_notMem_printBehind (gs : List UInt16) (hdot : '.' ∉ rest) :
    '.' ∉ printBehind gs ++ rest := by
  rw [List.mem_append, printBehind, List.mem_flatMap]
  rintro (⟨g, -, h⟩ | h)
  · rcases List.mem_cons.1 h with h | h
    · exact absurd h (by decide)
    · exact absurd (isDigit_of_mem_hex h) (by decide)
  · exact hdot h

theorem readGroups_printBehind {room : ℕ} (hroom : gs.length ≤ room) (hrest : RunEnds rest)
    (hdot : '.' ∉ rest) : readGroups room false (printBehind gs ++ rest) = (gs, false, rest) := by
  induction gs generalizing room with
  | nil => exact readGroups_of_runEnds hrest false room
  | cons g gs ih =>
    rw [List.length_cons] at hroom
    obtain ⟨room, rfl⟩ := Nat.exists_eq_add_of_le' (Nat.le_trans (Nat.le_add_left 1 _) hroom)
    have hcolon : afterColon? false (printBehind (g :: gs) ++ rest) =
        some (Nat.toDigits 16 g.toNat ++ (printBehind gs ++ rest)) := by
      simp [afterColon?, expect?, printBehind]
    rw [readGroups_printBehind_step hcolon (noDigit_printBehind gs hrest)
      (dot_notMem_printBehind gs hdot), ih (by omega)]

/-- **Groups are read back up to where their run ends.** -/
theorem readGroups_printGroups {room : ℕ} (hroom : gs.length ≤ room) (hrest : RunEnds rest)
    (hdot : '.' ∉ rest) : readGroups room true (printGroups gs ++ rest) = (gs, false, rest) := by
  cases gs with
  | nil => exact readGroups_of_runEnds hrest true room
  | cons g gs =>
    rw [List.length_cons] at hroom
    obtain ⟨room, rfl⟩ := Nat.exists_eq_add_of_le' (Nat.le_trans (Nat.le_add_left 1 _) hroom)
    have hcolon : afterColon? true (printGroups (g :: gs) ++ rest) =
        some (Nat.toDigits 16 g.toNat ++ (printBehind gs ++ rest)) := by
      rw [printGroups_cons, List.append_assoc]
      rfl
    rw [readGroups_printBehind_step hcolon (noDigit_printBehind gs hrest)
      (dot_notMem_printBehind gs hdot), readGroups_printBehind (by omega) hrest hdot]

theorem readGroups_all {room : ℕ} (hroom : gs.length ≤ room) :
    readGroups room true (printGroups gs) = (gs, false, []) := by
  have h := readGroups_printGroups hroom (.inl rfl) (List.not_mem_nil : '.' ∉ ([] : List Char))
  rwa [List.append_nil] at h

section DoubleColon

theorem eq_leadingZeros (gs : List UInt16) :
    gs = List.replicate (leadingZeros gs) 0 ++ gs.drop (leadingZeros gs) := by
  induction gs with
  | nil => rfl
  | cons g gs ih =>
    by_cases hg : g = 0
    · have hlen : leadingZeros (g :: gs) = leadingZeros gs + 1 := by simp [leadingZeros, hg]
      rw [hlen, List.replicate_succ, List.drop_succ_cons, List.cons_append, ← ih, hg]
    · have hlen : leadingZeros (g :: gs) = 0 := by simp [leadingZeros, hg]
      rw [hlen]
      rfl

/-- **The double colon stands for zero groups.** -/
theorem eq_longestZeros (gs : List UInt16) :
    gs = gs.take (longestZeros gs).1 ++ List.replicate (longestZeros gs).2 0 ++
      gs.drop ((longestZeros gs).1 + (longestZeros gs).2) := by
  induction gs with
  | nil => rfl
  | cons g gs ih =>
    unfold longestZeros
    dsimp only
    split
    -- the zeros in front are the longest run
    · rw [List.take_zero, List.nil_append, Nat.zero_add]
      exact eq_leadingZeros (g :: gs)
    -- or it is that of the groups behind
    · rw [List.take_succ_cons, Nat.add_right_comm, List.drop_succ_cons, List.cons_append,
        List.cons_append, ← ih]

/-- **A double colon is filled up with zeros** between the groups on its two sides. -/
theorem read?_of_doubleColon {head tail : List UInt16} {more : List Char} {closed : Bool}
    (hhead : readGroups 8 true cs = (head, false, ':' :: ':' :: more)) (hlen : head.length ≠ 8)
    (htail : readGroups (7 - head.length) true more = (tail, closed, rest)) :
    read? cs = (ofGroups? (head ++ List.replicate (8 - head.length - tail.length) 0 ++ tail)).map
      (·, rest) := by
  unfold read?
  rw [hhead]
  dsimp only
  rw [if_neg hlen, if_neg (by decide)]
  simp only [expect?, if_true, Option.bind_eq_bind, Option.bind_some, htail, Option.pure_def]
  cases ofGroups? (head ++ List.replicate (8 - head.length - tail.length) 0 ++ tail) <;> rfl

end DoubleColon

section Mapped

/-- A group is put together again from its octets. -/
theorem groupOf_octets (g : UInt16) : groupOf (g >>> 8).toUInt8 g.toUInt8 = g := by
  have hg : g.toNat < 65536 := g.toNat_lt
  have h8 : UInt16.toNat 8 % 16 = 8 := by decide
  -- the octets as numbers do not overlap, so `|||` adds them
  have hhigh : ((g >>> 8).toUInt8.toUInt16 <<< 8).toNat = (g.toNat / 256) <<< 8 := by
    simp only [UInt16.toNat_shiftLeft, UInt8.toNat_toUInt16, UInt16.toNat_toUInt8,
      UInt16.toNat_shiftRight, Nat.shiftRight_eq_div_pow, Nat.shiftLeft_eq]
    rw [h8]
    omega
  have hlow : g.toUInt8.toUInt16.toNat = g.toNat % 256 := by
    rw [UInt8.toNat_toUInt16, UInt16.toNat_toUInt8]
  rw [← UInt16.toNat_inj]
  unfold groupOf
  rw [UInt16.toNat_or, hhigh, hlow, ← Nat.shiftLeft_add_eq_or_of_lt (by omega), Nat.shiftLeft_eq]
  omega

/-- An IPv4-mapped address has six groups in front of its IPv4 address. -/
theorem groups_of_mapped? {v : V6} {w : V4} (h : v.mapped? = some w) :
    v.groups = List.replicate 5 0 ++ 0xFFFF :: w.groups := by
  unfold mapped? at h
  split at h
  next high low hgroups =>
    obtain rfl := Option.some.inj h
    rw [hgroups]
    unfold V4.groups V4.ofGroups
    rw [groupOf_octets, groupOf_octets]
    rfl
  · exact absurd h (by simp)

/-- Behind the double colon stand the sixth group and an IPv4 address. -/
theorem readGroups_mapped (w : V4) :
    readGroups 7 true ("ffff:".toList ++ w.print) = (0xFFFF :: w.groups, true, []) := by
  have hffff : "ffff:".toList ++ w.print =
      Nat.toDigits 16 (0xFFFF : UInt16).toNat ++ ':' :: w.print := by
    have hdigits : Nat.toDigits 16 (0xFFFF : UInt16).toNat = "ffff".toList := by decide
    rw [hdigits]
    rfl
  have hv4 : V4.read? (Nat.toDigits 16 (0xFFFF : UInt16).toNat ++ ':' :: w.print) = none := by
    rw [← hffff]
    exact V4.read?_eq_none (noDigit_cons (by decide))
  have hw : V4.read? w.print = some (w, []) := by
    have h := V4.read?_print w noDigit_nil
    rwa [List.append_nil] at h
  have hrest : readGroups 6 false (':' :: w.print) = (w.groups, true, []) := by
    unfold readGroups
    simp [afterColon?, expect?, hw]
  rw [hffff]
  unfold readGroups
  have hgroup : readGroup? (Nat.toDigits 16 (0xFFFF : UInt16).toNat ++ ':' :: w.print) =
      some (0xFFFF, ':' :: w.print) := readGroup?_hex 0xFFFF (noDigit_cons (by decide))
  simp only [afterColon?, if_true, hv4, hgroup, hrest, ite_self]

end Mapped

/-- Groups on the two sides of a double colon are read back with the zeros that it stands for. -/
theorem read?_printGroups {v : V6} {head tail : List UInt16} {n : ℕ}
    (h : v.groups = head ++ List.replicate n 0 ++ tail) (hn : 2 ≤ n) :
    read? (printGroups head ++ ':' :: ':' :: printGroups tail) = some (v, []) := by
  have hlen : head.length + n + tail.length = 8 := by
    rw [← v.length_groups, h, List.length_append, List.length_append, List.length_replicate]
  -- a full stop would let a group be taken for an IPv4 address
  have hdot : '.' ∉ ':' :: ':' :: printGroups tail := by
    simp only [List.mem_cons, not_or]
    exact ⟨by decide, by decide, fun h => absurd (mem_printGroups h) (by decide)⟩
  have hhead : readGroups 8 true (printGroups head ++ ':' :: ':' :: printGroups tail) =
      (head, false, ':' :: ':' :: printGroups tail) :=
    readGroups_printGroups (by omega) (.inr ⟨_, rfl⟩) hdot
  -- two zeros at least are missing, so there is room for all groups behind them
  have htail : readGroups (7 - head.length) true (printGroups tail) = (tail, false, []) :=
    readGroups_all (by omega)
  have hzeros : 8 - head.length - tail.length = n := by omega
  rw [read?_of_doubleColon hhead (by omega) htail, hzeros, ← h, ofGroups?_groups]
  rfl

theorem read?_print_of_mapped? {v : V6} {w : V4} (hv : v.mapped? = some w) :
    read? v.print = some (v, []) := by
  have htext : v.print = ':' :: ':' :: ("ffff:".toList ++ w.print) := print_of_mapped? hv
  have hhead : readGroups 8 true v.print = ([], false, ':' :: ':' :: ("ffff:".toList ++ w.print)) := by
    rw [readGroups_of_runEnds (.inr ⟨_, htext⟩), htext]
  have hzeros : 8 - ([] : List UInt16).length - (0xFFFF :: w.groups).length = 5 := rfl
  rw [read?_of_doubleColon hhead (by decide) (readGroups_mapped w), hzeros, List.nil_append,
    ← groups_of_mapped? hv, ofGroups?_groups]
  rfl

/-- **An IPv6 address is read back from its text.** -/
theorem read?_print (v : V6) : read? v.print = some (v, []) := by
  cases hv : v.mapped? with
  | some w => exact read?_print_of_mapped? hv
  | none =>
    unfold print
    rw [hv]
    dsimp only
    split
    -- all eight groups
    · unfold read?
      rw [readGroups_all (Nat.le_of_eq v.length_groups)]
      dsimp only
      rw [if_pos v.length_groups, ofGroups?_groups]
      rfl
    next hlong => exact read?_printGroups (eq_longestZeros v.groups) (Nat.le_of_not_lt hlong)

theorem v4_read?_print (v : V6) : V4.read? v.print = none := by
  cases hv : v.mapped? with
  | some w =>
    rw [print_of_mapped? hv]
    exact V4.read?_eq_none (noDigit_cons (by decide))
  | none =>
    exact V4.read?_eq_none_of_notMem fun h => absurd (mem_print_of_not_mapped hv h) (by decide)

end V6

/-- **Every address is read back from its text.** -/
theorem Address.parse?_print (a : Address) : parse? a.print = some a := by
  unfold parse?
  cases a with
  | v4 v =>
    have hread := V4.read?_print v noDigit_nil
    rw [List.append_nil] at hread
    unfold print
    rw [hread]
    rfl
  | v6 v =>
    unfold print
    rw [V6.v4_read?_print, V6.read?_print]
    rfl

end BootEnv
