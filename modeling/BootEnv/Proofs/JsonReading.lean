import BootEnv.Json.Reader
import BootEnv.Proofs.JsonText
import Mathlib.Data.String.Basic

/-!
# Reading the texts of JSON values

What the readers make of a text of the grammar, whatever stands behind it. A string is read as what it
says; a number and any other value are read to their end, since a value that does not matter is only
skipped. The text behind a number must not go on with it.

* `readString_text`, `skipString_text`: **a string is read to its closing quote.**
* `readLiteral_text`: a number is read as far as it goes.
* `skipValue_text`: **a value is skipped as a whole**, to whatever depth.
-/

namespace BootEnv.Json

variable {c : Char} {n : ℕ} {s cs ds gap text rest : List Char} {v : Json}

theorem ok_bind {ε α β : Type} (x : α) (f : α → Except ε β) :
    ((Except.ok x : Except ε α) >>= f) = f x := rfl

section Blanks

theorem skipBlanks_gap (h : IsGap gap) (cs : List Char) : skipBlanks (gap ++ cs) = skipBlanks cs := by
  refine List.dropWhile_append_of_pos fun c hc => ?_
  have hmem := h c hc
  simp only [List.mem_cons, List.mem_nil_iff, or_false] at hmem
  rcases hmem with rfl | rfl | rfl | rfl <;> decide

theorem skipBlanks_cons (h : isBlank c = false) (cs : List Char) : skipBlanks (c :: cs) = c :: cs := by
  unfold skipBlanks
  exact List.dropWhile_cons_of_neg (by simp [h])

theorem skipBlanks_gap_cons (hgap : IsGap gap) (hc : isBlank c = false) (rest : List Char) :
    skipBlanks (gap ++ c :: rest) = c :: rest := by
  rw [skipBlanks_gap hgap, skipBlanks_cons hc]

theorem readWord_append (word rest : List Char) : readWord word (word ++ rest) = .ok rest := by
  induction word with
  | nil => rw [List.nil_append, readWord]
  | cons w word ih => simp [readWord, ih]

end Blanks

section Strings

theorem length_le_utf8ByteSize (cs : List Char) : cs.length ≤ (String.ofList cs).utf8ByteSize := by
  rw [String.utf8ByteSize_ofList]
  induction cs with
  | nil => exact Nat.le_refl 0
  | cons c cs ih =>
    have hpos := c.utf8Size_pos
    rw [String.utf8Len_cons, List.length_cons]
    omega

theorem readHex_text (h : CodeText n cs) (rest : List Char) : readHex (cs ++ rest) = .ok n := by
  have htake : (cs ++ rest).take 4 = cs := List.take_left' h.length_eq
  have hsize : ¬ (String.ofList cs).utf8ByteSize < 4 := by
    have := length_le_utf8ByteSize cs
    have := h.length_eq
    omega
  have hvalue : Numeral.value? 16 cs = some n := Numeral.value?_hex_iff.2 ⟨h.isHex, h.value_eq⟩
  unfold readHex
  rw [htake, if_neg hsize, hvalue]

theorem isHigh_iff : isHigh n = true ↔ 0xD800 ≤ n ∧ n ≤ 0xDBFF := by simp [isHigh]

theorem isLow_iff : isLow n = true ↔ 0xDC00 ≤ n ∧ n ≤ 0xDFFF := by simp [isLow]

theorem escape_letter {l : Char} (h : (l, c) ∈ escapeLetters) (cs : List Char) :
    readEscape (l :: cs) = .ok (c, 1) ∧ skipEscape (l :: cs) = .ok 1 := by
  simp only [escapeLetters, List.mem_cons, Prod.mk.injEq, List.mem_nil_iff, or_false] at h
  rcases h with ⟨rfl, rfl⟩ | ⟨rfl, rfl⟩ | ⟨rfl, rfl⟩ | ⟨rfl, rfl⟩ | ⟨rfl, rfl⟩ | ⟨rfl, rfl⟩ |
    ⟨rfl, rfl⟩ | ⟨rfl, rfl⟩ <;> exact ⟨rfl, rfl⟩

/-- **A character is read from any of its texts.** -/
theorem readString_char (h : CharText c text) (cs : List Char) :
    readString (text ++ cs) = do
      let (s, rest) ← readString cs
      return (c :: s, rest) := by
  cases h with
  | plain hquote hslash hcontrol =>
    rw [List.singleton_append, readString, if_neg hquote, if_neg hslash, if_neg (by omega)]
  | @letter l _ h =>
    obtain ⟨hescape, -⟩ := escape_letter h cs
    show readString ('\\' :: l :: cs) = _
    rw [readString, if_neg (by decide), if_pos rfl, hescape]
    rfl
  | @code n ds h hn =>
    have hlow : ¬ isLow n = true := by
      rw [isLow_iff]
      omega
    have hhigh : ¬ isHigh n = true := by
      rw [isHigh_iff]
      omega
    have hescape : readEscape ('u' :: (ds ++ cs)) = .ok (Char.ofNat n, 5) := by
      rw [readEscape, readHex_text h, ok_bind, if_neg hlow, if_neg hhigh]
      rfl
    have hdrop : ('u' :: (ds ++ cs)).drop 5 = cs := by
      rw [List.drop_succ_cons, List.drop_left' h.length_eq]
    show readString ('\\' :: 'u' :: (ds ++ cs)) = _
    rw [readString, if_neg (by decide), if_pos rfl, hescape, ok_bind]
    dsimp only
    rw [hdrop]
  | @pair m n ds es h hm h' hn =>
    have hlow : ¬ isLow m = true := by
      rw [isLow_iff]
      omega
    have hpair : readLow ('\\' :: 'u' :: (es ++ cs)) = .ok n := by
      rw [readLow, readHex_text h', ok_bind, if_pos (isLow_iff.2 hn)]
      rfl
    have hescape : readEscape ('u' :: (ds ++ '\\' :: 'u' :: (es ++ cs))) = .ok (ofPair m n, 11) := by
      rw [readEscape, readHex_text h, ok_bind, if_neg hlow, if_pos (isHigh_iff.2 hm),
        List.drop_left' h.length_eq, hpair]
      rfl
    have hdrop : ('u' :: (ds ++ '\\' :: 'u' :: (es ++ cs))).drop 11 = cs := by
      have hlength : ('u' :: (ds ++ '\\' :: 'u' :: es)).length = 11 := by
        simp [h.length_eq, h'.length_eq]
      have happend : 'u' :: (ds ++ '\\' :: 'u' :: (es ++ cs)) =
          'u' :: (ds ++ '\\' :: 'u' :: es) ++ cs := by simp
      rw [happend, List.drop_left' hlength]
    have htext : '\\' :: 'u' :: ds ++ '\\' :: 'u' :: es ++ cs =
        '\\' :: 'u' :: (ds ++ '\\' :: 'u' :: (es ++ cs)) := by simp
    rw [htext, readString, if_neg (by decide), if_pos rfl, hescape, ok_bind]
    dsimp only
    rw [hdrop]
    rfl

/-- **A string is read to its closing quote.** -/
theorem readString_text (h : StringText s cs) (rest : List Char) :
    readString (cs ++ rest) = .ok (s, rest) := by
  induction h with
  | nil => rw [List.singleton_append, readString, if_pos rfl]
  | cons hc hs ih =>
    rw [List.append_assoc, readString_char hc, ih]
    rfl

theorem skipString_code (h : CodeText n ds) (cs : List Char) :
    skipString ('\\' :: 'u' :: (ds ++ cs)) = skipString cs := by
  have hescape : skipEscape ('u' :: (ds ++ cs)) = .ok 5 := by
    rw [skipEscape, readHex_text h]
    rfl
  have hdrop : ('u' :: (ds ++ cs)).drop 5 = cs := by
    rw [List.drop_succ_cons, List.drop_left' h.length_eq]
  rw [skipString, if_neg (by decide), if_pos rfl, hescape, ok_bind, hdrop]

theorem skipString_char (h : CharText c text) (cs : List Char) :
    skipString (text ++ cs) = skipString cs := by
  cases h with
  | plain hquote hslash hcontrol =>
    rw [List.singleton_append, skipString, if_neg hquote, if_neg hslash, if_neg (by omega)]
  | @letter l _ h =>
    obtain ⟨-, hescape⟩ := escape_letter h cs
    show skipString ('\\' :: l :: cs) = _
    rw [skipString, if_neg (by decide), if_pos rfl, hescape]
    rfl
  | code h hn => exact skipString_code h cs
  | @pair m n ds es h hm h' hn =>
    -- what does not matter is skipped by halves
    have htext : '\\' :: 'u' :: ds ++ '\\' :: 'u' :: es ++ cs =
        '\\' :: 'u' :: (ds ++ '\\' :: 'u' :: (es ++ cs)) := by simp
    rw [htext, skipString_code h, skipString_code h']

theorem skipString_text (h : StringText s cs) (rest : List Char) :
    skipString (cs ++ rest) = .ok rest := by
  induction h with
  | nil => rw [List.singleton_append, skipString, if_pos rfl]
  | cons hc hs ih => rw [List.append_assoc, skipString_char hc, ih]

end Strings

section Numbers

/-- The text does not go on with a number in front of it. -/
structure NumberEnds (rest : List Char) : Prop where
  noDigit : NoDigit 10 rest
  noPoint : rest.head? ≠ some '.'
  noPower : ∀ c ∈ rest.head?, ¬ (c = 'e' ∨ c = 'E')

theorem numberEnds_cons (hc : c ∈ [' ', '\n', '\t', '\r', ',', ']', '\x7d']) (cs : List Char) :
    NumberEnds (c :: cs) := by
  have hall : isDigit 10 c = false ∧ c ≠ '.' ∧ ¬ (c = 'e' ∨ c = 'E') := by
    simp only [List.mem_cons, List.mem_nil_iff, or_false] at hc
    rcases hc with rfl | rfl | rfl | rfl | rfl | rfl | rfl <;> decide
  obtain ⟨hdigit, hpoint, hpower⟩ := hall
  refine ⟨noDigit_cons hdigit, ?_, ?_⟩
  · simpa using hpoint
  · simpa using hpower

theorem NumberEnds.gap_append (hgap : IsGap gap) (h : NumberEnds rest) :
    NumberEnds (gap ++ rest) := by
  cases gap with
  | nil => exact h
  | cons c gap =>
    have hc := hgap c List.mem_cons_self
    refine numberEnds_cons ?_ (gap ++ rest)
    simp only [List.mem_cons, List.mem_nil_iff, or_false] at hc ⊢
    tauto

theorem readDigits_append (ends : Fault) (hne : ds ≠ []) (hds : ∀ c ∈ ds, isDigit 10 c = true)
    (hrest : NoDigit 10 rest) : readDigits ends (ds ++ rest) = .ok (ds, rest) := by
  obtain ⟨htake, hdrop⟩ := takeWhile_append_of_noDigit hds hrest
  obtain ⟨d, ds', rfl⟩ := List.exists_cons_of_ne_nil hne
  rw [List.cons_append] at htake hdrop ⊢
  unfold readDigits
  dsimp only
  rw [if_pos (hds d List.mem_cons_self), htake, hdrop]

theorem readWhole_text (ends : Fault) (n : ℕ) (hrest : NoDigit 10 rest) :
    readWhole ends (Nat.toDigits 10 n ++ rest) = .ok (Nat.toDigits 10 n, rest) := by
  have hdigit : ∀ c ∈ Nat.toDigits 10 n, isDigit 10 c = true :=
    fun c hc => isDigit_of_mem_toDigits (by decide) (by decide) hc
  have hzero : ¬ ((Nat.toDigits 10 n).head? = some '0' ∧ 1 < (Nat.toDigits 10 n).length) := by
    rintro ⟨hhead, hlength⟩
    by_cases hn : n = 0
    · subst hn
      exact absurd hlength (by decide)
    · exact head?_toDigits (by decide) (by decide) hn hhead
  rw [readWhole, readDigits_append ends Nat.toDigits_ne_nil hdigit hrest, ok_bind]
  dsimp only
  rw [if_neg hzero]
  rfl

theorem isDigit_digitChar (d : Fin 10) : isDigit 10 (Nat.digitChar d.val) = true := by
  revert d
  decide

theorem isDigit_of_value? (h : Numeral.value? 10 ds = some n) : ∀ c ∈ ds, isDigit 10 c = true :=
  Numeral.isDigit_of_valueFrom? (n := 0) (by unfold Numeral.value? at h; simp [h])

theorem ExponentText.head {e : Option ℤ} (h : ExponentText e text) (hrest : NumberEnds rest) :
    NoDigit 10 (text ++ rest) ∧ (text ++ rest).head? ≠ some '.' := by
  have hpower : ∀ c, c = 'e' ∨ c = 'E' → isDigit 10 c = false ∧ c ≠ '.' := by
    rintro c (rfl | rfl) <;> decide
  cases h with
  | none => exact ⟨hrest.noDigit, hrest.noPoint⟩
  | positive he _ _ _ | negative he _ _ =>
    obtain ⟨hdigit, hpoint⟩ := hpower _ he
    exact ⟨noDigit_cons hdigit, by simpa using hpoint⟩

theorem readExponent_text (ends : Fault) {e : Option ℤ} (h : ExponentText e text)
    (hrest : NumberEnds rest) : ∃ x, readExponent ends (text ++ rest) = .ok (x, rest) := by
  cases h with
  | none =>
    cases rest with
    | nil => exact ⟨none, rfl⟩
    | cons c rest =>
      have hpower := hrest.noPower c rfl
      refine ⟨none, ?_⟩
      rw [List.nil_append, readExponent, if_neg hpower]
  | @positive e sign ds n he hsign hds hn =>
    have hdigit := isDigit_of_value? hn
    have hdigits := readDigits_append ends hds hdigit hrest.noDigit
    refine ⟨some (false, ds), ?_⟩
    rw [List.append_assoc, List.cons_append, readExponent, if_pos he]
    rcases hsign with rfl | rfl
    · have hnone : ∀ sign, isDigit 10 sign = false → ((ds ++ rest).head? == some sign) = false := by
        rintro sign hsign
        obtain ⟨d, ds', rfl⟩ := List.exists_cons_of_ne_nil hds
        have hd := hdigit d List.mem_cons_self
        rw [List.cons_append, List.head?_cons, beq_eq_false_iff_ne, ne_eq, Option.some.injEq]
        rintro rfl
        exact absurd (hsign.symm.trans hd) (by decide)
      dsimp only
      rw [List.nil_append, hnone '-' (by decide), hnone '+' (by decide), if_neg (by decide), hdigits]
      rfl
    · simp [hdigits, ok_bind, pure, Except.pure]
  | @negative e ds n he hds hn =>
    have hdigits := readDigits_append ends hds (isDigit_of_value? hn) hrest.noDigit
    refine ⟨some (true, ds), ?_⟩
    rw [List.cons_append, readExponent, if_pos he]
    simp [hdigits, ok_bind, pure, Except.pure]

theorem FractionText.noDigit {fs : List (Fin 10)} (h : FractionText fs text)
    (hrest : NoDigit 10 rest) : NoDigit 10 (text ++ rest) := by
  cases h with
  | none => exact hrest
  | some hfs => exact noDigit_cons (by decide)

theorem readFraction_text (ends : Fault) {fs : List (Fin 10)} (h : FractionText fs text)
    (hrest : NoDigit 10 rest) (hpoint : rest.head? ≠ some '.') :
    ∃ x, readFraction ends (text ++ rest) = .ok (x, rest) := by
  cases h with
  | none =>
    refine ⟨[], ?_⟩
    unfold readFraction
    rw [List.nil_append]
    split
    next => exact absurd rfl hpoint
    next => rfl
  | some hfs =>
    have hdigit : ∀ c ∈ fs.map fun d : Fin 10 => Nat.digitChar d.val, isDigit 10 c = true := by
      intro c hc
      obtain ⟨d, -, rfl⟩ := List.mem_map.1 hc
      exact isDigit_digitChar d
    exact ⟨_, readDigits_append ends (by simpa using hfs) hdigit hrest⟩

/-- **A number is read as far as it goes.** -/
theorem readLiteral_text (ends : Fault) {m : JsonNumber} (h : UnsignedText m text)
    (hrest : NumberEnds rest) (negative : Bool) :
    ∃ l, readLiteral ends negative (text ++ rest) = .ok (l, rest) := by
  obtain @⟨fraction, exponent, hf, he⟩ := h
  obtain ⟨hdigit, hpoint⟩ := he.head hrest
  obtain ⟨x, hexponent⟩ := readExponent_text ends he hrest
  obtain ⟨fs, hfraction⟩ := readFraction_text ends hf hdigit hpoint
  have hwhole := readWhole_text ends m.whole (hf.noDigit hdigit)
  refine ⟨⟨negative, Nat.toDigits 10 m.whole, fs, x⟩, ?_⟩
  rw [List.append_assoc, List.append_assoc, readLiteral, hwhole, ok_bind]
  dsimp only
  rw [hfraction, ok_bind]
  dsimp only
  rw [hexponent]
  rfl

theorem skipNumber_text {m : JsonNumber} (h : UnsignedText m text) (hrest : NumberEnds rest) :
    skipNumber (text ++ rest) = .ok rest := by
  obtain ⟨l, hl⟩ := readLiteral_text .badNumber h hrest false
  rw [skipNumber, hl]
  rfl

end Numbers

section Front

theorem UnsignedText.front {m : JsonNumber} (h : UnsignedText m text) :
    ∃ d tail, text = d :: tail ∧ isDigit 10 d = true := by
  obtain @⟨fraction, exponent, hf, he⟩ := h
  obtain ⟨d, ds, hds⟩ := List.exists_cons_of_ne_nil (Nat.toDigits_ne_nil (b := 10) (n := m.whole))
  have hd : isDigit 10 d = true :=
    isDigit_of_mem_toDigits (n := m.whole) (by decide) (by decide) (hds ▸ List.mem_cons_self)
  exact ⟨d, ds ++ fraction ++ exponent, by rw [hds, List.cons_append, List.cons_append], hd⟩

theorem ne_of_isDigit {d : Char} (h : isDigit 10 d = true) (hc : isDigit 10 c = false) : d ≠ c := by
  rintro rfl
  exact absurd (hc.symm.trans h) (by decide)

theorem isBlank_of_isDigit {d : Char} (h : isDigit 10 d = true) : isBlank d = false := by
  have hspace := ne_of_isDigit (c := ' ') h (by decide)
  have hnewline := ne_of_isDigit (c := '\n') h (by decide)
  have htab := ne_of_isDigit (c := '\t') h (by decide)
  have hreturn := ne_of_isDigit (c := '\r') h (by decide)
  simp [isBlank, hspace, hnewline, htab, hreturn]

/-- A text of a value starts with no blank, and not as a list ends. -/
theorem ValueText.front (h : ValueText v text) :
    ∃ c tail, text = c :: tail ∧ isBlank c = false ∧ c ≠ ']' := by
  cases h with
  | number h =>
    cases h with
    | positive _ h =>
      obtain ⟨d, tail, rfl, hd⟩ := h.front
      exact ⟨d, tail, rfl, isBlank_of_isDigit hd, ne_of_isDigit hd (by decide)⟩
    | negative _ _ => exact ⟨'-', _, rfl, by decide, by decide⟩
  | null | isTrue | isFalse | string _ | emptyList _ | list _ | emptyObject _ | object _ =>
    exact ⟨_, _, rfl, by decide, by decide⟩

theorem SpacedText.front (h : SpacedText v text) (rest : List Char) :
    ∃ c tail, skipBlanks (text ++ rest) = c :: tail ∧ c ≠ ']' := by
  obtain @⟨front, _, cs, back, hfront, hv, -⟩ := h
  obtain ⟨c, tail, rfl, hblank, hc⟩ := hv.front
  refine ⟨c, tail ++ back ++ rest, ?_, hc⟩
  rw [List.append_assoc, List.append_assoc, List.cons_append, skipBlanks_gap_cons hfront hblank,
    List.append_assoc]

theorem ItemsText.front {items : List Json} (h : ItemsText items text) (rest : List Char) :
    ∃ c tail, skipBlanks (text ++ rest) = c :: tail ∧ c ≠ ']' := by
  cases h with
  | last h | cons h _ =>
    rw [List.append_assoc]
    exact h.front _

theorem MemberText.front {m : List Char × Json} (h : MemberText m text) (rest : List Char) :
    ∃ tail, skipBlanks (text ++ rest) = '"' :: tail := by
  obtain @⟨front, name, ns, back, v, cs, hfront, -, -, -⟩ := h
  refine ⟨ns ++ (back ++ (':' :: cs ++ rest)), ?_⟩
  rw [List.append_assoc, List.append_assoc, List.append_assoc]
  exact skipBlanks_gap_cons hfront (by decide) _

theorem MembersText.front {members : List (List Char × Json)} (h : MembersText members text)
    (rest : List Char) : ∃ tail, skipBlanks (text ++ rest) = '"' :: tail := by
  cases h with
  | last h | cons h _ =>
    rw [List.append_assoc]
    exact h.front _

end Front

section Values

theorem skipValue_of_front (h : skipBlanks cs = c :: rest) : skipValue cs = skipFrom c rest := by
  rw [skipValue]
  split
  next h' => exact absurd (h.symm.trans h') (by simp)
  next c' rest' h' =>
    obtain ⟨rfl, rfl⟩ := List.cons.inj (h.symm.trans h')
    rfl

theorem skipValue_cons (hc : isBlank c = false) (rest : List Char) :
    skipValue (c :: rest) = skipFrom c rest :=
  skipValue_of_front (skipBlanks_cons hc rest)

theorem skipValue_null (rest : List Char) : skipValue ('n' :: rest) = readWord "ull".toList rest := by
  rw [skipValue_cons (by decide), skipFrom]
  rfl

theorem skipValue_true (rest : List Char) : skipValue ('t' :: rest) = readWord "rue".toList rest := by
  rw [skipValue_cons (by decide), skipFrom]
  rfl

theorem skipValue_false (rest : List Char) : skipValue ('f' :: rest) = readWord "alse".toList rest := by
  rw [skipValue_cons (by decide), skipFrom]
  rfl

theorem skipValue_quote (rest : List Char) : skipValue ('"' :: rest) = skipString rest := by
  rw [skipValue_cons (by decide), skipFrom]
  rfl

theorem skipValue_minus (rest : List Char) : skipValue ('-' :: rest) = skipNumber rest := by
  rw [skipValue_cons (by decide), skipFrom]
  rfl

/-- Blanks in front of a value do not matter. -/
theorem skipValue_gap (hgap : IsGap gap) (h : ValueText v text) (rest : List Char) :
    skipValue (gap ++ (text ++ rest)) = skipValue (text ++ rest) := by
  obtain ⟨c, tail, rfl, hblank, -⟩ := h.front
  have hgapped : skipBlanks (gap ++ (c :: (tail ++ rest))) = c :: (tail ++ rest) :=
    skipBlanks_gap_cons hgap hblank _
  rw [List.cons_append, skipValue_cons hblank, skipValue_of_front hgapped]

theorem skipValue_number {m : JsonNumber} (h : NumberText m text) (hrest : NumberEnds rest) :
    skipValue (text ++ rest) = .ok rest := by
  cases h with
  | positive _ h =>
    have hnumber := skipNumber_text h hrest
    obtain ⟨d, tail, rfl, hd⟩ := h.front
    have hne : ∀ c, isDigit 10 c = false → d ≠ c := fun c hc => ne_of_isDigit hd hc
    rw [List.cons_append] at hnumber ⊢
    rw [skipValue_cons (isBlank_of_isDigit hd), skipFrom, if_neg (hne 'n' (by decide)),
      if_neg (hne 't' (by decide)), if_neg (hne 'f' (by decide)), if_neg (hne '"' (by decide)),
      if_neg (hne '-' (by decide)), if_pos hd, hnumber]
  | negative _ h =>
    exact (skipValue_minus _).trans (skipNumber_text h hrest)

theorem skipValue_emptyList (h : skipBlanks cs = ']' :: rest) : skipValue ('[' :: cs) = .ok rest := by
  refine (skipValue_cons (by decide) cs).trans ?_
  have hdigit : isDigit 10 '[' = false := by decide
  simp [skipFrom, h, hdigit]

theorem skipValue_list (h : skipBlanks cs = c :: rest) (hc : c ≠ ']') :
    skipValue ('[' :: cs) = skipItems cs := by
  refine (skipValue_cons (by decide) cs).trans ?_
  have hdigit : isDigit 10 '[' = false := by decide
  simp [skipFrom, h, hc, hdigit]

theorem skipValue_emptyObject (h : skipBlanks cs = '\x7d' :: rest) :
    skipValue ('\x7b' :: cs) = .ok rest := by
  refine (skipValue_cons (by decide) cs).trans ?_
  have hdigit : isDigit 10 '\x7b' = false := by decide
  simp [skipFrom, h, hdigit]

theorem skipValue_object (h : skipBlanks cs = '"' :: rest) :
    skipValue ('\x7b' :: cs) = skipMembers cs := by
  refine (skipValue_cons (by decide) cs).trans ?_
  have hdigit : isDigit 10 '\x7b' = false := by decide
  simp [skipFrom, h, hdigit]

/-- An item is skipped, and then the bracket behind it or the items behind a comma. -/
theorem skipItems_item (h : skipValue cs = .ok rest) :
    skipItems cs =
      match skipBlanks rest with
      | [] => .error .endInList
      | ',' :: rest => if rest.length < cs.length then skipItems rest else .error .expectedListEnd
      | ']' :: rest => .ok rest
      | _ => .error .expectedListEnd := by
  rw [skipItems, h]
  rfl

/-- A member is skipped, and then the brace behind it or the members behind a comma. -/
theorem skipMembers_member {front name ns back : List Char} (hfront : IsGap front)
    (hname : StringText name ns) (hback : IsGap back) (h : skipValue cs = .ok rest)
    (htext : text = front ++ '"' :: (ns ++ (back ++ ':' :: cs))) :
    skipMembers text =
      match skipBlanks rest with
      | [] => .error .endInObject
      | ',' :: rest =>
        if rest.length < text.length then skipMembers rest else .error .expectedObjectEnd
      | '\x7d' :: rest => .ok rest
      | _ => .error .expectedObjectEnd := by
  have hquote : skipBlanks text = '"' :: (ns ++ (back ++ ':' :: cs)) := by
    rw [htext, skipBlanks_gap_cons hfront (by decide)]
  have hcolon : skipBlanks (back ++ ':' :: cs) = ':' :: cs := skipBlanks_gap_cons hback (by decide) cs
  have hlength : cs.length < text.length := by
    simp only [htext, List.length_append, List.length_cons]
    omega
  rw [skipMembers, hquote]
  refine (congrArg (· >>= _) (skipString_text hname _)).trans ?_
  rw [ok_bind, hcolon]
  refine (if_pos hlength).trans ?_
  rw [h]
  rfl

mutual

/-- **A value is skipped as a whole**, and no further. -/
theorem skipValue_text : ∀ {v text}, ValueText v text → ∀ {rest}, NumberEnds rest →
    skipValue (text ++ rest) = .ok rest
  | _, _, .null, rest, _ =>
    (skipValue_null _).trans (readWord_append "ull".toList rest)
  | _, _, .isTrue, rest, _ =>
    (skipValue_true _).trans (readWord_append "rue".toList rest)
  | _, _, .isFalse, rest, _ =>
    (skipValue_false _).trans (readWord_append "alse".toList rest)
  | _, _, .number h, _, hrest => skipValue_number h hrest
  | _, _, .string h, rest, _ =>
    (skipValue_quote _).trans (skipString_text h rest)
  | _, _, .emptyList hgap, rest, _ => by
    rw [List.append_assoc, List.cons_append]
    exact skipValue_emptyList (skipBlanks_gap_cons hgap (by decide) rest)
  | _, _, .list h, rest, _ => by
    obtain ⟨c, tail, hfront, hc⟩ := h.front rest
    rw [List.cons_append, skipValue_list hfront hc, skipItems_text h]
  | _, _, .emptyObject hgap, rest, _ => by
    rw [List.append_assoc, List.cons_append]
    exact skipValue_emptyObject (skipBlanks_gap_cons hgap (by decide) rest)
  | _, _, .object h, rest, _ => by
    obtain ⟨tail, hfront⟩ := h.front rest
    rw [List.cons_append, skipValue_object hfront, skipMembers_text h]

theorem skipValue_spaced : ∀ {v text}, SpacedText v text → ∀ {rest}, NumberEnds rest →
    ∃ back, IsGap back ∧ back <:+ text ∧ skipValue (text ++ rest) = .ok (back ++ rest)
  -- the blanks behind the value are left for the list or the object that it stands in
  | _, _, @SpacedText.mk _ _ _ back hfront h hback, rest, hrest => by
    have hskip := skipValue_text h (hrest.gap_append hback)
    refine ⟨back, hback, List.suffix_append _ back, ?_⟩
    rw [List.append_assoc, List.append_assoc, skipValue_gap hfront h, hskip]

theorem skipItems_text : ∀ {items text}, ItemsText items text → ∀ rest,
    skipItems (text ++ rest) = .ok rest
  | _, _, .last h, rest => by
    obtain ⟨back, hback, -, hskip⟩ := skipValue_spaced h (numberEnds_cons (c := ']') (by decide) rest)
    rw [List.append_assoc, List.singleton_append, skipItems_item hskip,
      skipBlanks_gap_cons hback (by decide)]
    rfl
  | _, _, .cons h hitems, rest => by
    obtain ⟨back, hback, -, hskip⟩ := skipValue_spaced h (numberEnds_cons (c := ',') (by decide) _)
    rw [List.append_assoc, List.cons_append, skipItems_item hskip,
      skipBlanks_gap_cons hback (by decide)]
    refine (if_pos ?_).trans (skipItems_text hitems rest)
    simp only [List.length_append, List.length_cons]
    omega

theorem skipMembers_text : ∀ {members text}, MembersText members text → ∀ rest,
    skipMembers (text ++ rest) = .ok rest
  | _, _, .last (.mk hfront hname hback h), rest => by
    obtain ⟨gap, hgap, -, hskip⟩ :=
      skipValue_spaced h (numberEnds_cons (c := '\x7d') (by decide) rest)
    rw [skipMembers_member hfront hname hback hskip (by simp), skipBlanks_gap_cons hgap (by decide)]
    rfl
  | _, _, @MembersText.cons _ _ _ tail (.mk hfront hname hback h) hmembers, rest => by
    obtain ⟨gap, hgap, -, hskip⟩ :=
      skipValue_spaced h (numberEnds_cons (c := ',') (by decide) (tail ++ rest))
    rw [skipMembers_member hfront hname hback hskip (by simp), skipBlanks_gap_cons hgap (by decide)]
    refine (if_pos ?_).trans (skipMembers_text hmembers rest)
    simp only [List.length_append, List.length_cons]
    omega

end

end Values

end BootEnv.Json
