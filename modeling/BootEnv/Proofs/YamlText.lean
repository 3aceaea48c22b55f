import BootEnv.Yaml.Token.Lexer
import Mathlib.Data.List.Basic
import Mathlib.Tactic.Common

/-!
# Texts of flat YAML mappings

A mapping written with one entry to a line: a word, a colon, and a value in double quotes, in which a
quote and a backslash stand behind a backslash. The last line may end without a break.

* `Line`, `Line.text`: an entry, and how it is written.
* `linesText`, `textBehind`: the text of lines, and what stands behind a line.
* `source?_linesText`: such a text is the source of a document as it is.
* `readPlain_key`, `readDouble_value`: **a word and a value are read from their texts, whatever stands
  behind them.**
-/

namespace BootEnv.Yaml

/-- A character of a word: a small letter or an underscore. -/
def isKeyChar (c : Char) : Bool := c.isLower || c == '_'

/-- A printable character of ASCII. -/
def isPrintable (c : Char) : Bool := 0x20 ≤ c.toNat && c.toNat ≤ 0x7E

/-- An entry of a mapping: a word, which is its key, and a value. -/
structure Line where
  key : List Char
  value : List Char
  key_ne_nil : key ≠ []
  isKeyChar_of_mem : ∀ c ∈ key, isKeyChar c = true
  isPrintable_of_mem : ∀ c ∈ value, isPrintable c = true

/-- How a character is written between double quotes. -/
def writeChar (c : Char) : List Char := if c = '"' ∨ c = '\\' then ['\\', c] else [c]

/-- A value in double quotes. -/
def writeValue (value : List Char) : List Char := '"' :: value.flatMap writeChar ++ ['"']

/-- How an entry is written. -/
def Line.text (l : Line) : List Char := l.key ++ ':' :: ' ' :: writeValue l.value

/-- The text behind a line when the given lines follow it. The last of them may end without a break. -/
def textBehind (isEnded : Bool) : List Line → List Char
  | [] => if isEnded then ['\n'] else []
  | l :: ls => '\n' :: (l.text ++ textBehind isEnded ls)

/-- The text of lines. -/
def linesText (isEnded : Bool) : List Line → List Char
  | [] => []
  | l :: ls => l.text ++ textBehind isEnded ls

section Characters

variable {c : Char}

/-- What holds of the first characters holds of each one among them. -/
@[elab_as_elim]
theorem of_toNat_lt {motive : Char → Prop} {n : Nat} (small : ∀ k < n, motive (Char.ofNat k))
    (c : Char) (hc : c.toNat < n) : motive c := by
  have hchar := small c.toNat hc
  rwa [Char.ofNat_toNat] at hchar

theorem toNat_lt_of_isPrintable (h : isPrintable c = true) : c.toNat < 128 := by
  simp only [isPrintable, Bool.and_eq_true, decide_eq_true_eq] at h
  omega

theorem isPrintable_of_isKeyChar (h : isKeyChar c = true) : isPrintable c = true := by
  have hlt : c.toNat < 128 := by
    rcases Bool.or_eq_true_iff.1 h with hlower | hscore
    · have hle : c.toNat ≤ 122 := of_decide_eq_true (Bool.and_eq_true_iff.1 hlower).2
      omega
    · rw [eq_of_beq hscore]
      decide
  -- the characters of this range are few enough to look at each, here and below
  revert h
  refine of_toNat_lt ?_ c hlt
  decide +kernel

/-- **A printable character stands for itself within a line**, and the only blank among them is the
space. -/
theorem inline_of_isPrintable (h : isPrintable c = true) :
    isAllowed c = true ∧ isBreak c = false ∧ (isBlank c = true → c = ' ') ∧
      c ≠ '\r' ∧ c ≠ '\u0085' := by
  have hlt := toNat_lt_of_isPrintable h
  revert h
  refine of_toNat_lt ?_ c hlt
  decide +kernel

/-- **A character of a word is no sign**, and it ends neither words nor lines. -/
theorem word_of_isKeyChar (h : isKeyChar c = true) :
    Lexer.isIndicator c = false ∧ isBlank c = false ∧ isBreak c = false ∧ c ≠ '.' := by
  have hlt := toNat_lt_of_isPrintable (isPrintable_of_isKeyChar h)
  revert h
  refine of_toNat_lt ?_ c hlt
  decide +kernel

end Characters

section Source

variable {text : List Char}

theorem Line.text_append (k : Line) (rest : List Char) :
    k.text ++ rest = k.key ++ ':' :: ' ' :: (writeValue k.value ++ rest) := by
  simp [Line.text]

theorem Line.exists_text_eq_cons (k : Line) (rest : List Char) :
    ∃ c cs, isKeyChar c = true ∧ k.text ++ rest = c :: cs := by
  obtain ⟨c, cs, hkey⟩ := List.exists_cons_of_ne_nil k.key_ne_nil
  refine ⟨c, cs ++ ':' :: ' ' :: (writeValue k.value ++ rest), ?_, ?_⟩
  · exact k.isKeyChar_of_mem c (by simp [hkey])
  · rw [Line.text_append, hkey, List.cons_append]

theorem isPrintable_of_mem_writeValue {value : List Char} (h : ∀ c ∈ value, isPrintable c = true) :
    ∀ c ∈ writeValue value, isPrintable c = true := by
  intro c hc
  simp only [writeValue, List.mem_append, List.mem_cons, List.mem_flatMap, List.not_mem_nil,
    or_false] at hc
  rcases hc with (rfl | ⟨d, hd, hc⟩) | rfl
  · decide
  · -- what stands for a character is the character itself, perhaps with a backslash in front
    have hcd : c = d ∨ c = '\\' := by
      unfold writeChar at hc
      split at hc
      · simpa [or_comm] using hc
      · exact .inl (by simpa using hc)
    rcases hcd with rfl | rfl
    · exact h c hd
    · decide
  · decide

theorem isPrintable_of_mem_text (l : Line) : ∀ c ∈ l.text, isPrintable c = true := by
  intro c hc
  simp only [Line.text, List.mem_append, List.mem_cons] at hc
  rcases hc with hc | rfl | rfl | hc
  · exact isPrintable_of_isKeyChar (l.isKeyChar_of_mem c hc)
  · decide
  · decide
  · exact isPrintable_of_mem_writeValue l.isPrintable_of_mem c hc

theorem isPrintable_or_newline_of_mem_textBehind (isEnded : Bool) (ls : List Line) :
    ∀ c ∈ textBehind isEnded ls, isPrintable c = true ∨ c = '\n' := by
  induction ls with
  | nil => cases isEnded <;> simp [textBehind]
  | cons l ls ih =>
    intro c hc
    simp only [textBehind, List.mem_cons, List.mem_append] at hc
    rcases hc with rfl | hc | hc
    · exact .inr rfl
    · exact .inl (isPrintable_of_mem_text l c hc)
    · exact ih c hc

theorem unifyBreaks_of_forall (h : ∀ c ∈ text, c ≠ '\r' ∧ c ≠ '\u0085') :
    unifyBreaks text = text := by
  fun_induction unifyBreaks text with
  | case1 => rfl
  | case2 cs ih => exact absurd rfl (h '\r' List.mem_cons_self).1
  | case3 c cs _ ih =>
    obtain ⟨hreturn, hnext⟩ := h c List.mem_cons_self
    rw [ih fun x hx => h x (List.mem_cons_of_mem c hx), if_neg (by simp [hreturn, hnext])]

/-- **The text of lines is the source of a document as it is.** -/
theorem source?_linesText (isEnded : Bool) (ls : List Line) :
    source? (linesText isEnded ls) = some (linesText isEnded ls) := by
  have hchars : ∀ c ∈ linesText isEnded ls, isPrintable c = true ∨ c = '\n' := by
    cases ls with
    | nil => simp [linesText]
    | cons l ls =>
      intro c hc
      rcases List.mem_append.1 hc with hc | hc
      · exact .inl (isPrintable_of_mem_text l c hc)
      · exact isPrintable_or_newline_of_mem_textBehind isEnded ls c hc
  have hallowed : (linesText isEnded ls).all isAllowed = true := by
    rw [List.all_eq_true]
    intro c hc
    rcases hchars c hc with hprint | rfl
    · exact (inline_of_isPrintable hprint).1
    · decide
  have hbreaks : ∀ c ∈ linesText isEnded ls, c ≠ '\r' ∧ c ≠ '\u0085' := by
    intro c hc
    rcases hchars c hc with hprint | rfl
    · exact (inline_of_isPrintable hprint).2.2.2
    · decide
  rw [source?, if_pos hallowed, unifyBreaks_of_forall hbreaks]

end Source

section Scalars

/-- **A word is read up to the colon behind it.** -/
theorem readPlain_key {key : List Char} (h : ∀ c ∈ key, isKeyChar c = true) (margin : Nat)
    (rest : List Char) : readPlain ⟨false, margin⟩ .none (key ++ ':' :: ' ' :: rest) =
      some (key, .none, ':' :: ' ' :: rest) := by
  induction key with
  | nil => rfl
  | cons c cs ih =>
    obtain ⟨hsign, hblank, hbreak, -⟩ := word_of_isKeyChar (h c List.mem_cons_self)
    have hcolon : c ≠ ':' := by
      rintro rfl
      exact absurd hsign (by decide)
    have hends :
        PlainPlace.endsAfter ⟨false, margin⟩ .none (c :: (cs ++ ':' :: ' ' :: rest)) = false := rfl
    have hlone :
        PlainPlace.isLoneColon ⟨false, margin⟩ (c :: (cs ++ ':' :: ' ' :: rest)) = false := by
      unfold PlainPlace.isLoneColon
      split
      next heq => exact absurd (List.cons.inj heq).1 hcolon
      next => rfl
    have hat : PlainPlace.endsAt ⟨false, margin⟩ (c :: (cs ++ ':' :: ' ' :: rest)) = false := by
      simp [PlainPlace.endsAt, hcolon]
    rw [List.cons_append, readPlain, hbreak, hblank, hends, hlone, hat,
      ih fun x hx => h x (List.mem_cons_of_mem c hx)]
    rfl

/-- **A value is read up to the quote that closes it**, with the blanks that stand in front. -/
theorem readDouble_value {value : List Char} (h : ∀ c ∈ value, isPrintable c = true)
    (blanks rest : List Char) :
    readDouble (.inline blanks) (value.flatMap writeChar ++ '"' :: rest) =
      some (blanks ++ value, rest) := by
  induction value generalizing blanks with
  | nil =>
    rw [List.flatMap_nil, List.nil_append, readDouble, List.append_nil]
    rfl
  | cons c cs ih =>
    have ih := ih fun x hx => h x (List.mem_cons_of_mem c hx)
    obtain ⟨-, hbreak, hspace, -⟩ := inline_of_isPrintable (h c List.mem_cons_self)
    have hnone : readDouble .none (cs.flatMap writeChar ++ '"' :: rest) = some (cs, rest) := ih []
    rw [List.flatMap_cons, List.append_assoc]
    by_cases hescape : c = '"' ∨ c = '\\'
    · -- a backslash and a letter that stands for itself
      have hwrite : writeChar c = ['\\', c] := if_pos hescape
      have hread : readEscape? (c :: (cs.flatMap writeChar ++ '"' :: rest)) = some (c, 1) := by
        rcases hescape with rfl | rfl <;> rfl
      rw [hwrite, List.cons_append, List.cons_append, List.nil_append, readDouble]
      simp only [List.head?_cons, Option.any_some, hbreak, hread, List.drop_one, List.tail_cons, hnone]
      simp [isBreak, isBlank, Gap.isFresh, Gap.text, prepend]
    · have hwrite : writeChar c = [c] := if_neg hescape
      rw [not_or] at hescape
      rw [hwrite, List.singleton_append, readDouble]
      by_cases hblank : isBlank c = true
      · simp only [hbreak, hblank, Bool.false_eq_true, if_false, if_true, Gap.addBlank, ih]
        simp
      · simp only [hbreak, hblank, Bool.false_eq_true, if_false, Gap.isFresh, Bool.false_and, hescape,
          hnone, Gap.text, prepend, Option.map_some]
        simp

end Scalars

end BootEnv.Yaml
