import BootEnv.Json.Basic
import BootEnv.Proofs.Digits
import BootEnv.Proofs.Hexadecimal

/-!
# Texts of JSON values

Which texts say which value. Blanks may stand between the parts of a text, a character of a string may
be written in several ways, and so may the power of ten of a number. The members of an object are
listed as they come, whatever their names.

* `CharText`, `StringText`: how a string is written.
* `NumberText`: how a number is written.
* `ValueText`, `SpacedText`: how a value is written, and a value with blanks around it.
* `valueText_write`: **the compact text of a value is one of its texts.**
-/

namespace BootEnv.Json

/-- Blanks between the parts of a text. -/
def IsGap (gap : List Char) : Prop := ∀ c ∈ gap, c ∈ [' ', '\n', '\t', '\r']

/-- The letters of the short escapes, with what they stand for. -/
def escapeLetters : List (Char × Char) :=
  [('"', '"'), ('\\', '\\'), ('/', '/'), ('b', Char.ofNat 8), ('f', Char.ofNat 12), ('n', '\n'),
    ('r', '\r'), ('t', '\t')]

/-- Four hexadecimal digits that are worth `n`. -/
structure CodeText (n : ℕ) (cs : List Char) : Prop where
  length_eq : cs.length = 4
  isHex : ∀ c ∈ cs, IsHex c
  value_eq : hexValue cs = n

/-- The ways to write a character in a string: as it is, by a letter, by its code point, or by the two
halves of a surrogate pair. -/
inductive CharText : Char → List Char → Prop
  | plain {c} (hquote : c ≠ '"') (hslash : c ≠ '\\') (hcontrol : 32 ≤ c.toNat) : CharText c [c]
  | letter {l c} (h : (l, c) ∈ escapeLetters) : CharText c ['\\', l]
  | code {n cs} (h : CodeText n cs) (hn : n < 0xD800 ∨ 0xDFFF < n) :
      CharText (Char.ofNat n) ('\\' :: 'u' :: cs)
  | pair {m n cs ds} (h : CodeText m cs) (hm : 0xD800 ≤ m ∧ m ≤ 0xDBFF) (h' : CodeText n ds)
      (hn : 0xDC00 ≤ n ∧ n ≤ 0xDFFF) :
      CharText (Char.ofNat (0x10000 + (m - 0xD800) * 0x400 + (n - 0xDC00)))
        ('\\' :: 'u' :: cs ++ '\\' :: 'u' :: ds)

/-- The text of a string from behind its opening quote. -/
inductive StringText : List Char → List Char → Prop
  | nil : StringText [] ['"']
  | cons {c s front back} (h : CharText c front) (hs : StringText s back) :
      StringText (c :: s) (front ++ back)

/-- The text of the digits behind the point, if there are any. -/
inductive FractionText : List (Fin 10) → List Char → Prop
  | none : FractionText [] []
  | some {ds} (hds : ds ≠ []) : FractionText ds ('.' :: ds.map fun d : Fin 10 => Nat.digitChar d.val)

/-- The text of the power of ten, if there is one. -/
inductive ExponentText : Option ℤ → List Char → Prop
  | none : ExponentText .none []
  | positive {e sign ds n} (he : e = 'e' ∨ e = 'E') (hsign : sign = [] ∨ sign = ['+'])
      (hds : ds ≠ []) (hn : Numeral.value? 10 ds = .some n) :
      ExponentText (.some n) (e :: sign ++ ds)
  | negative {e ds n} (he : e = 'e' ∨ e = 'E') (hds : ds ≠ [])
      (hn : Numeral.value? 10 ds = .some n) : ExponentText (.some (-n)) (e :: '-' :: ds)

/-- The text of a number behind its minus sign, if it has one. -/
inductive UnsignedText (n : JsonNumber) : List Char → Prop
  | mk {fraction exponent} (hf : FractionText n.fraction fraction)
      (he : ExponentText n.exponent exponent) :
      UnsignedText n (Nat.toDigits 10 n.whole ++ fraction ++ exponent)

/-- The text of a number. -/
inductive NumberText (n : JsonNumber) : List Char → Prop
  | positive {cs} (hn : n.negative = false) (h : UnsignedText n cs) : NumberText n cs
  | negative {cs} (hn : n.negative = true) (h : UnsignedText n cs) : NumberText n ('-' :: cs)

mutual

/-- The texts of a value. -/
inductive ValueText : Json → List Char → Prop
  | null : ValueText .null "null".toList
  | isTrue : ValueText (.bool true) "true".toList
  | isFalse : ValueText (.bool false) "false".toList
  | number {n cs} (h : NumberText n cs) : ValueText (.number n) cs
  | string {s cs} (h : StringText s cs) : ValueText (.string s) ('"' :: cs)
  | emptyList {gap} (hgap : IsGap gap) : ValueText (.array []) ('[' :: gap ++ [']'])
  | list {items cs} (h : ItemsText items cs) : ValueText (.array items) ('[' :: cs)
  | emptyObject {gap} (hgap : IsGap gap) : ValueText (.object []) ('\x7b' :: gap ++ ['\x7d'])
  | object {members cs} (h : MembersText members cs) : ValueText (.object members) ('\x7b' :: cs)

/-- The texts of a value with blanks around it. -/
inductive SpacedText : Json → List Char → Prop
  | mk {front v cs back} (hfront : IsGap front) (h : ValueText v cs) (hback : IsGap back) :
      SpacedText v (front ++ cs ++ back)

/-- The texts of the items of a list, of which there is at least one, and the bracket behind them. -/
inductive ItemsText : List Json → List Char → Prop
  | last {v cs} (h : SpacedText v cs) : ItemsText [v] (cs ++ [']'])
  | cons {v cs items rest} (h : SpacedText v cs) (hrest : ItemsText items rest) :
      ItemsText (v :: items) (cs ++ ',' :: rest)

/-- The texts of a member of an object. -/
inductive MemberText : List Char × Json → List Char → Prop
  | mk {front name ns back v cs} (hfront : IsGap front) (hname : StringText name ns)
      (hback : IsGap back) (h : SpacedText v cs) :
      MemberText (name, v) (front ++ '"' :: ns ++ back ++ ':' :: cs)

/-- The texts of the members of an object, of which there is at least one, and the brace behind
them. -/
inductive MembersText : List (List Char × Json) → List Char → Prop
  | last {m cs} (h : MemberText m cs) : MembersText [m] (cs ++ ['\x7d'])
  | cons {m cs members rest} (h : MemberText m cs) (hrest : MembersText members rest) :
      MembersText (m :: members) (cs ++ ',' :: rest)

end

section Write

variable {v : Json}

theorem isGap_nil : IsGap [] := by simp [IsGap]

/-- The code of a control, as it is written. -/
theorem codeText_control {n : ℕ} (hn : n < 32) :
    CodeText n ['0', '0', Nat.digitChar (n / 16), Nat.digitChar (n % 16)] := by
  have hall : ∀ n < 32, Numeral.value? 16 ['0', '0', Nat.digitChar (n / 16), Nat.digitChar (n % 16)] =
      some n := by decide +kernel
  obtain ⟨hhex, hvalue⟩ := Numeral.value?_hex_iff.1 (hall n hn)
  exact ⟨rfl, hhex, hvalue⟩

theorem charText_writeChar (c : Char) : CharText c (writeChar c) := by
  have hletter : ∀ {l d}, (l, d) ∈ escapeLetters → c = d → CharText c ['\\', l] := by
    rintro l d h rfl
    exact .letter h
  have hcode : ∀ {n}, c.toNat = n → c = Char.ofNat n := by
    rintro n rfl
    exact (Char.ofNat_toNat c).symm
  unfold writeChar
  split_ifs with hquote hslash hnewline hreturn htab hback hfeed hcontrol
  · exact hletter (by decide) hquote
  · exact hletter (by decide) hslash
  · exact hletter (by decide) hnewline
  · exact hletter (by decide) hreturn
  · exact hletter (by decide) htab
  · exact hletter (by decide) (hcode hback)
  · exact hletter (by decide) (hcode hfeed)
  · have h := CharText.code (codeText_control hcontrol) (.inl (by omega))
    rwa [Char.ofNat_toNat] at h
  · exact .plain hquote hslash (by omega)

theorem stringText_flatMap (s : List Char) : StringText s (s.flatMap writeChar ++ ['"']) := by
  induction s with
  | nil => exact .nil
  | cons c s ih =>
    rw [List.flatMap_cons, List.append_assoc]
    exact .cons (charText_writeChar c) ih

theorem value?_toDigits_ten (n : ℕ) : Numeral.value? 10 (Nat.toDigits 10 n) = some n :=
  Numeral.value?_toDigits (by decide) (by decide) n

theorem exponentText_writeInt (n : ℤ) : ExponentText (some n) ('e' :: writeInt n) := by
  unfold writeInt
  by_cases hn : n < 0
  · have h := ExponentText.negative (e := 'e') (.inl rfl) Nat.toDigits_ne_nil
      (value?_toDigits_ten n.natAbs)
    rw [if_pos hn]
    rwa [show -(n.natAbs : ℤ) = n by omega] at h
  · have h := ExponentText.positive (e := 'e') (.inl rfl) (.inl rfl) Nat.toDigits_ne_nil
      (value?_toDigits_ten n.natAbs)
    rw [if_neg hn]
    rwa [show (n.natAbs : ℤ) = n by omega] at h

theorem numberText_writeNumber (n : JsonNumber) : NumberText n (writeNumber n) := by
  obtain ⟨negative, whole, fraction, exponent⟩ := n
  have hfraction : FractionText fraction
      (if fraction.isEmpty then [] else '.' :: fraction.map fun d => Nat.digitChar d.val) := by
    cases fraction with
    | nil => exact .none
    | cons d ds => exact .some (List.cons_ne_nil d ds)
  have hsign : ∀ {cs}, UnsignedText ⟨negative, whole, fraction, exponent⟩ cs →
      NumberText ⟨negative, whole, fraction, exponent⟩ ((if negative then ['-'] else []) ++ cs) := by
    intro cs h
    cases negative with
    | false => exact .positive rfl h
    | true => exact .negative rfl h
  unfold writeNumber
  rw [List.append_assoc, List.append_assoc, ← List.append_assoc (Nat.toDigits 10 whole)]
  refine hsign (.mk hfraction ?_)
  cases exponent with
  | none => exact .none
  | some e => exact exponentText_writeInt e

theorem SpacedText.of_valueText {cs : List Char} (h : ValueText v cs) : SpacedText v cs := by
  have h' := SpacedText.mk isGap_nil h isGap_nil
  rwa [List.nil_append, List.append_nil] at h'

theorem memberText_write {cs : List Char} (k : List Char) (h : ValueText v cs) :
    MemberText (k, v) (writeString k ++ ':' :: cs) := by
  have h' := MemberText.mk isGap_nil (stringText_flatMap k) isGap_nil (SpacedText.of_valueText h)
  rwa [List.nil_append, List.append_nil] at h'

mutual

/-- **The compact text of a value is one of its texts.** -/
theorem valueText_write : ∀ v : Json, ValueText v (write v)
  | .null => .null
  | .bool true => .isTrue
  | .bool false => .isFalse
  | .number n => .number (numberText_writeNumber n)
  | .string s => .string (stringText_flatMap s)
  | .array [] => .emptyList isGap_nil
  | .array (v :: vs) => .list (itemsText_writeItems (v :: vs) (List.cons_ne_nil v vs))
  | .object [] => .emptyObject isGap_nil
  | .object (m :: ms) => .object (membersText_writeMembers (m :: ms) (List.cons_ne_nil m ms))

theorem itemsText_writeItems : ∀ vs : List Json, vs ≠ [] → ItemsText vs (writeItems vs)
  | [], h => absurd rfl h
  | [v], _ => .last (.of_valueText (valueText_write v))
  | v :: w :: vs, _ =>
    .cons (.of_valueText (valueText_write v)) (itemsText_writeItems (w :: vs) (List.cons_ne_nil w vs))

theorem membersText_writeMembers :
    ∀ ms : List (List Char × Json), ms ≠ [] → MembersText ms (writeMembers ms)
  | [], h => absurd rfl h
  | [(k, v)], _ => .last (memberText_write k (valueText_write v))
  | (k, v) :: m :: ms, _ =>
    .cons (memberText_write k (valueText_write v))
      (membersText_writeMembers (m :: ms) (List.cons_ne_nil m ms))

end

end Write

end BootEnv.Json
