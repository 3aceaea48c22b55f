import BootEnv.Text.Segment
import BootEnv.Token.Name
import Mathlib.Tactic.Common

/-!
# The names of interface addresses

A token is the lower case of its variable behind a dollar sign. The underscore is neither cased nor
ignorable, so lower case is taken part by part, and the token is spelled from the interface, the
family and the number.

* `tokenSpelling`: `$iface_`, the stem in lower case, the family and the number.
* `addressToken_eq_spelling`: **the token of an address is spelled so.**
* `word_suffix_inj`: a text that ends in a word, with or without a number, tells the two.
* `tokenSpelling_inj`: **a token tells the stem in lower case, the family and the number.**
* `wellKnown_token_ne`: no interface address has a well-known token.
* `addressToken_unambiguous`: **tokens of addresses differ where the stems in lower case, the families or
  the numbers do**, and only the first IPv4 address under the stem `default` has a reserved one.
-/

namespace BootEnv

namespace Text

/-- **Lower case is taken on each side of an underscore.** -/
theorem lower_append_underscore (a b : List Char) :
    lower (a ++ '_' :: b) = lower a ++ '_' :: lower b := by
  have hign : isIgnorable '_' = false := by decide +kernel
  have hcased : isCased '_' = false := by decide +kernel
  have hlow : lowerOf '_' = ['_'] := by decide
  rw [lower_append_of_stop hign hcased (by decide), hlow, List.append_assoc, List.singleton_append]

/-- Characters that are their own lower case are left alone. -/
theorem lower_of_forall {cs : List Char} (h : ∀ c ∈ cs, c ≠ 'Σ' ∧ lowerOf c = [c]) :
    lower cs = cs := by
  -- what stands before a character matters to a sigma only
  have hfrom : ∀ before, lowerFrom before cs = cs := by
    induction cs with
    | nil => intro _; rfl
    | cons c cs ih =>
      intro before
      obtain ⟨hs, hc⟩ := h c List.mem_cons_self
      rw [lowerFrom, if_neg hs, hc, ih fun x hx => h x (List.mem_cons_of_mem c hx)]
      rfl
  exact hfrom []

/-- The last occurrence of a character cuts a text in one way only. -/
theorem append_cons_inj {c : Char} {a b a' b' : List Char} (hb : c ∉ b) (hb' : c ∉ b')
    (h : a ++ c :: b = a' ++ c :: b') : a = a' ∧ b = b' := by
  -- the last occurrence is the first one from behind
  have hr : b.reverse ++ c :: a.reverse = b'.reverse ++ c :: a'.reverse := by
    simpa using congrArg List.reverse h
  have hcut := congrArg (cutAt? c) hr
  rw [cutAt?_append_cons (by simpa using hb), cutAt?_append_cons (by simpa using hb')] at hcut
  simp only [Option.some.injEq, Prod.mk.injEq, List.reverse_inj] at hcut
  exact ⟨hcut.2, hcut.1⟩

end Text

theorem isDigit_of_mem_decimal {n : Nat} {c : Char} (h : c ∈ decimal n) : c.isDigit = true :=
  Nat.isDigit_of_mem_toDigits (by decide) (by decide) h

theorem decimal_inj {n m : Nat} (h : decimal n = decimal m) : n = m := by
  have hv := congrArg (fun cs => Nat.ofDigitChars 10 cs 0) h
  simpa only [decimal, Nat.ofDigitChars_ten_toDigits] using hv

/-- A digit has no case. -/
theorem lowerOf_digit {c : Char} (h : c.isDigit = true) : c ≠ 'Σ' ∧ Text.lowerOf c = [c] := by
  have hc : c.toNat ≤ 57 := by
    simp only [Char.isDigit, Bool.and_eq_true, decide_eq_true_eq] at h
    exact UInt32.le_iff_toNat_le.1 h.2
  have hlow : c.toLower = c := by
    unfold Char.toLower
    rw [dif_neg]
    intro hA
    have hA' : 65 ≤ c.toNat := UInt32.le_iff_toNat_le.1 hA.1
    omega
  refine ⟨?_, ?_⟩
  · rintro rfl
    exact absurd hc (by decide)
  · unfold Text.lowerOf
    rw [if_pos (by omega), hlow]

/-- How a token names a family. -/
def Family.tag : Family → List Char
  | v4 => "ipv4".toList
  | v6 => "ipv6".toList

/-- The token of the `n`-th address of a family, part by part. -/
def tokenSpelling (interface : List Char) (f : Family) (n : Nat) : List Char :=
  "$iface_".toList ++ Text.lower (stem interface) ++ '_' :: f.tag ++ numberSuffix n

theorem lower_label (f : Family) (n : Nat) :
    Text.lower (f.label ++ numberSuffix n) = f.tag ++ numberSuffix n := by
  have hlabel : Text.lower f.label = f.tag := by cases f <;> decide +kernel
  unfold numberSuffix
  split
  · rw [List.append_nil, List.append_nil, hlabel]
  · rw [Text.lower_append_underscore, hlabel,
      Text.lower_of_forall fun c hc => lowerOf_digit (isDigit_of_mem_decimal hc)]

/-- **Taken part by part, the lower case of a variable spells its token.** -/
theorem addressToken_eq_spelling (interface : List Char) (f : Family) (n : Nat) :
    addressToken interface f n = tokenSpelling interface f n := by
  have hsplit : addressVariable interface f n =
      "IFACE".toList ++ '_' :: (stem interface ++ '_' :: (f.label ++ numberSuffix n)) := by
    unfold addressVariable
    rw [show "IFACE_".toList = "IFACE".toList ++ ['_'] by decide]
    simp only [List.append_assoc, List.cons_append, List.nil_append]
  have hfront : '$' :: (Text.lower "IFACE".toList ++ ['_']) = "$iface_".toList := by decide +kernel
  unfold addressToken tokenSpelling
  rw [hsplit, Text.lower_append_underscore, Text.lower_append_underscore, lower_label, ← hfront]
  simp only [List.append_assoc, List.cons_append, List.nil_append]

/-- Nothing, or a number behind an underscore. -/
def IsNumberSuffix (cs : List Char) : Prop :=
  cs = [] ∨ ∃ digits, cs = '_' :: digits ∧ digits ≠ [] ∧ ∀ c ∈ digits, c.isDigit = true

theorem isNumberSuffix_numberSuffix (n : Nat) : IsNumberSuffix (numberSuffix n) := by
  unfold numberSuffix
  split
  · exact .inl rfl
  · exact .inr ⟨decimal n, rfl, Nat.toDigits_ne_nil, fun c hc => isDigit_of_mem_decimal hc⟩

theorem numberSuffix_inj {n m : Nat} (h : numberSuffix n = numberSuffix m) : n = m := by
  unfold numberSuffix at h
  split at h <;> split at h
  next hn hm => rw [hn, hm]
  · exact absurd h (by simp)
  · exact absurd h (by simp)
  · exact decimal_inj (List.cons.inj h).2

/-- No underscore, and something that is not a digit. -/
structure IsWord (cs : List Char) : Prop where
  underscore_notMem : '_' ∉ cs
  exists_not_isDigit : ∃ c ∈ cs, c.isDigit = false

/-- **What stands behind the last underscore is a word or a number**, never both, so a text that ends
in a word, with or without a number, tells the two. -/
theorem word_suffix_inj {a b w v s t : List Char} (hw : IsWord w) (hv : IsWord v)
    (hs : IsNumberSuffix s) (ht : IsNumberSuffix t)
    (h : a ++ '_' :: w ++ s = b ++ '_' :: v ++ t) : a = b ∧ w = v ∧ s = t := by
  have hnot : ∀ digits : List Char, (∀ c ∈ digits, c.isDigit = true) → '_' ∉ digits :=
    fun digits hd hmem => absurd (hd _ hmem) (by decide)
  have hne : ∀ {w digits : List Char}, IsWord w → (∀ c ∈ digits, c.isDigit = true) → w ≠ digits := by
    rintro w digits hw hd rfl
    obtain ⟨c, hc, hcd⟩ := hw.exists_not_isDigit
    rw [hd c hc] at hcd
    exact absurd hcd (by decide)
  obtain rfl | ⟨ds, rfl, -, hds⟩ := hs <;> obtain rfl | ⟨es, rfl, -, hes⟩ := ht
  · rw [List.append_nil, List.append_nil] at h
    obtain ⟨hab, hwv⟩ := Text.append_cons_inj hw.underscore_notMem hv.underscore_notMem h
    exact ⟨hab, hwv, rfl⟩
  · rw [List.append_nil] at h
    exact absurd (Text.append_cons_inj hw.underscore_notMem (hnot es hes) h).2 (hne hw hes)
  · rw [List.append_nil] at h
    exact absurd (Text.append_cons_inj (hnot ds hds) hv.underscore_notMem h).2.symm (hne hv hds)
  · obtain ⟨hfront, hd⟩ := Text.append_cons_inj (hnot ds hds) (hnot es hes) h
    obtain ⟨hab, hwv⟩ := Text.append_cons_inj hw.underscore_notMem hv.underscore_notMem hfront
    exact ⟨hab, hwv, by rw [hd]⟩

theorem Family.isWord_tag (f : Family) : IsWord f.tag := by
  cases f <;> exact ⟨by decide, 'i', by decide, by decide⟩

theorem tag_suffix_inj {a b : List Char} {f g : Family} {n m : Nat}
    (h : a ++ '_' :: f.tag ++ numberSuffix n = b ++ '_' :: g.tag ++ numberSuffix m) :
    a = b ∧ f = g ∧ n = m := by
  have hfam : ∀ f g : Family, f.tag = g.tag → f = g := by
    intro f g
    cases f <;> cases g <;> decide
  obtain ⟨hab, htag, hsuffix⟩ := word_suffix_inj f.isWord_tag g.isWord_tag
    (isNumberSuffix_numberSuffix n) (isNumberSuffix_numberSuffix m) h
  exact ⟨hab, hfam f g htag, numberSuffix_inj hsuffix⟩

/-- **A token tells what it was made of**: the stem in lower case, the family and the number. -/
theorem tokenSpelling_inj {i j : List Char} {f g : Family} {n m : Nat} :
    tokenSpelling i f n = tokenSpelling j g m ↔
      Text.lower (stem i) = Text.lower (stem j) ∧ f = g ∧ n = m := by
  unfold tokenSpelling
  constructor
  · intro h
    obtain ⟨hs, hfn⟩ := tag_suffix_inj h
    exact ⟨List.append_cancel_left hs, hfn⟩
  · rintro ⟨h, rfl, rfl⟩
    rw [h]

/-- No interface address has a well-known token. -/
theorem wellKnown_token_ne (w : WellKnown) (i : List Char) (f : Family) (n : Nat) :
    w.token.toList ≠ tokenSpelling i f n := by
  intro h
  have htake := congrArg (List.take 2) h
  unfold tokenSpelling at htake
  cases w <;> simp [WellKnown.token] at htake

theorem toList_defaultToken : defaultToken.toList = tokenSpelling "default".toList .v4 0 := by
  decide +kernel

theorem lower_stem_default : Text.lower (stem "default".toList) = "default".toList := by
  decide +kernel

/-- Behind the stem, too, lower case is taken part by part. -/
theorem lower_underscore_label (f : Family) (n : Nat) :
    Text.lower ('_' :: f.label ++ numberSuffix n) = '_' :: f.tag ++ numberSuffix n := by
  have hsplit := Text.lower_append_underscore [] (f.label ++ numberSuffix n)
  rw [lower_label] at hsplit
  exact hsplit

/-- **The naming of addresses is unambiguous.** Although lower case is taken of the whole variable, a
token is spelled from the stem, the family and the number, each in lower case, and tells all three. It is
no well-known token, and the default token only for the first IPv4 address under the stem `default`. -/
theorem addressToken_unambiguous (i : List Char) (f : Family) (n : Nat) :
    (∀ j g m, addressToken i f n = addressToken j g m ↔
      f = g ∧ n = m ∧
        Text.lower ((Text.upper i).map fun c => if c = '.' then '_' else c) =
          Text.lower ((Text.upper j).map fun c => if c = '.' then '_' else c)) ∧
    addressToken i f n = "$iface_".toList ++
      Text.lower ((Text.upper i).map fun c => if c = '.' then '_' else c) ++
      Text.lower ('_' :: f.label ++ numberSuffix n) ∧
    (∀ w : WellKnown, addressToken i f n ≠ w.token.toList) ∧
    (addressToken i f n = defaultToken.toList ↔
      f = .v4 ∧ n = 0 ∧
        Text.lower ((Text.upper i).map fun c => if c = '.' then '_' else c) = "default".toList) := by
  have hstem : ∀ i : List Char,
      ((Text.upper i).map fun c => if c = '.' then '_' else c) = stem i := fun _ => rfl
  have htells : ∀ j g m, addressToken i f n = tokenSpelling j g m ↔
      f = g ∧ n = m ∧ Text.lower (stem i) = Text.lower (stem j) := by
    intro j g m
    rw [addressToken_eq_spelling, tokenSpelling_inj, and_comm, and_assoc]
  simp only [hstem]
  refine ⟨fun j g m => ?_, ?_, fun w => ?_, ?_⟩
  · rw [addressToken_eq_spelling j, htells]
  · calc addressToken i f n = tokenSpelling i f n := addressToken_eq_spelling i f n
      _ = "$iface_".toList ++ Text.lower (stem i) ++ ('_' :: f.tag ++ numberSuffix n) :=
        List.append_assoc _ _ _
      _ = _ := congrArg _ (lower_underscore_label f n).symm
  · rw [addressToken_eq_spelling]
    exact (wellKnown_token_ne w i f n).symm
  · rw [toList_defaultToken, htells, lower_stem_default]

/-- A stem that itself ends in a family and a number, and two names with one stem in lower case. -/
theorem addressToken_unambiguous_suffixed :
    addressToken "x.ipv4_1".toList .v4 0 ≠ addressToken "x".toList .v4 1 ∧
    addressToken "eth0.1".toList .v6 2 = addressToken "ETH0_1".toList .v6 2 ∧
    addressToken "Default".toList .v4 0 = defaultToken.toList := by
  refine ⟨fun h => ?_, ?_, ?_⟩
  · obtain ⟨-, hnumber, -⟩ := ((addressToken_unambiguous _ _ _).1 _ _ _).1 h
    exact absurd hnumber (by decide)
  · exact ((addressToken_unambiguous _ _ _).1 _ _ _).2 ⟨rfl, rfl, by decide +kernel⟩
  · exact (addressToken_unambiguous _ _ _).2.2.2.2 ⟨rfl, rfl, by decide +kernel⟩

/-- The token under a stem that ends in a family and a number, and under one that ends in a sigma. -/
example : String.ofList (addressToken "x.ipv4_1".toList .v6 12) = "$iface_x_ipv4_1_ipv6_12" ∧
    String.ofList (addressToken "ΟΔΟΣ".toList .v4 0) = "$iface_οδος_ipv4" := by
  decide +kernel

end BootEnv
