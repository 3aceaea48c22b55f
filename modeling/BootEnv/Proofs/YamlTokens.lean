import BootEnv.Proofs.YamlText

/-!
# The tokens of flat YAML mappings

Each line comes to four tokens in three steps: at the key, at the colon, which shows that it is one,
and at the value. A key beyond the limit is none, and the reading ends in front of it.

* `step?_key`, `step?_colon`, `step?_value`, `step?_end`: one step at each place.
* `run_line`: **a line adds the tokens of its entry, wherever in the mapping it stands.**
* `run_behind`, `tokensOf_linesText`: the tokens of all lines.
-/

namespace BootEnv.Yaml

/-- The tokens of an entry. -/
def Line.tokens (k : Line) : List Token :=
  [.key, .scalar ⟨k.key, true⟩, .value, .scalar ⟨k.value, false⟩]

/-- The tokens behind an entry when the given lines follow it. -/
def tokensBehind : List Line → List Token
  | [] => [.blockEnd, .textEnd]
  | k :: ks => if k.key.length ≤ Lexer.maxKey then k.tokens ++ tokensBehind ks else []

/-- The tokens of lines. -/
def tokensOfLines : List Line → List Token
  | [] => [.textEnd]
  | k :: ks =>
    if k.key.length ≤ Lexer.maxKey then .blockMap :: tokensBehind (k :: ks)
    else [.scalar ⟨k.key, true⟩]

theorem Line.after_key (k : Line) (m : Mark) :
    m.after k.key = ⟨m.index + k.key.length, m.line, m.column + k.key.length⟩ := by
  have hbreaks : ∀ c ∈ k.key, isBreak c = false := by
    intro c hc
    exact (word_of_isKeyChar (k.isKeyChar_of_mem c hc)).2.2.1
  exact Mark.after_of_forall_not_break hbreaks m

theorem Line.after_text (k : Line) (m : Mark) :
    m.after k.text = ((m.after k.key).after [':']).after (' ' :: writeValue k.value) := by
  rw [Line.text, Mark.after_append]
  rfl

namespace Lexer

section Steps

variable {l l' : Lexer}

theorem moveTo_append (l : Lexer) {piece rest : List Char} (h : l.rest = piece ++ rest) :
    l.moveTo rest = { l with rest, mark := l.mark.after piece } := by
  simp [moveTo, h]

theorem skip_of_toToken (piece : List Char) {rest : List Char} {allowsKey : Bool}
    (hrest : l.rest = piece ++ rest)
    (h : toToken l.inFlow false l.allowsKey l.rest = (allowsKey, rest)) :
    l.skip = { l with rest, mark := l.mark.after piece, allowsKey } := by
  rw [skip, h]
  simp only [moveTo_append l hrest, allow]

theorem refreshAll?_of_none (hc : l.candidate = none) (ho : l.outer = []) :
    l.refreshAll? = some l := by
  obtain ⟨rest, mark, tokens, indents, candidate, outer, allowsKey⟩ := l
  obtain rfl : candidate = none := hc
  obtain rfl : outer = [] := ho
  rfl

theorem unroll_eq_self {column : Nat} (h : ∀ i ∈ l.indents, i ≤ column) : l.unroll column = l := by
  obtain ⟨rest, mark, tokens, indents, candidate, outer, allowsKey⟩ := l
  cases indents with
  | nil => simp [unroll]
  | cons i is =>
    have hi : ¬column < i := Nat.not_lt.2 (h i List.mem_cons_self)
    simp [unroll, hi]

/-- **A step reads one token from the place of the next one**, when nothing ends there and nothing
stops to be a candidate. -/
theorem step?_of_skip {c : Char} {cs : List Char} (hskip : l.skip = l') (hrest : l'.rest = c :: cs)
    (hrefresh : l'.refreshAll? = some l') (hindents : ∀ i ∈ l'.indents, i ≤ l'.mark.column) :
    l.step? = (l'.readToken? c cs).bind refreshAll? := by
  rw [step?, hskip, hrefresh]
  simp only [Option.bind_eq_bind, Option.bind_some, unroll_eq_self hindents, hrest]

theorem run_of_step (h : l.step? = some l') (hend : l'.isAtEnd = false)
    (hrest : l'.rest.length < l.rest.length) : l.run = l'.run := by
  rw [run, h]
  simp only [hend, hrest, Bool.false_eq_true, if_false, if_true]

theorem run_of_last (h : l.step? = some l') (hend : l'.isAtEnd = true) : l.run = l'.tokens := by
  rw [run, h]
  exact if_pos hend

theorem run_of_none (h : l.step? = none) : l.run = l.settled := by
  rw [run, h]

end Steps

/-- A place where an entry may begin: nothing is a candidate yet. -/
def atEntry (m : Mark) (ts : List Token) (is : List Nat) (cs : List Char) : Lexer :=
  ⟨cs, m, ts, is, none, [], true⟩

/-- The place of the colon behind the key of an entry, which lies at `m`. -/
def atColon (k : Line) (m : Mark) (ts : List Token) (is : List Nat) (isRequired : Bool)
    (cs : List Char) : Lexer :=
  ⟨':' :: ' ' :: cs, m.after k.key, ts ++ [.scalar ⟨k.key, true⟩], is,
    some ⟨isRequired, ts.length, m⟩, [], false⟩

/-- A place in the mapping where no entry may begin. -/
def inEntry (m : Mark) (ts : List Token) (cs : List Char) : Lexer :=
  ⟨cs, m, ts, [0], none, [], false⟩

/-- What opens in front of a key. -/
def opening (is : List Nat) : List Token := if is = [] then [.blockMap] else []

variable {l : Lexer} {k : Line} {ks : List Line} {m : Mark} {ts : List Token} {is : List Nat}
  {cs : List Char} {isRequired : Bool}

section Key

theorem toToken_text (k : Line) (inFlow allowsKey : Bool) (cs : List Char) :
    toToken inFlow false allowsKey (k.text ++ cs) = (allowsKey, k.text ++ cs) := by
  obtain ⟨c, cs', hc, htext⟩ := k.exists_text_eq_cons cs
  obtain ⟨hsign, hblank, hbreak, -⟩ := word_of_isKeyChar hc
  have hhash : c ≠ '#' := by
    rintro rfl
    exact absurd hsign (by decide)
  simp only [isBlank, Bool.or_eq_false_iff, beq_eq_false_iff_ne] at hblank
  rw [htext, toToken]
  simp [hbreak, hblank, hhash]

theorem skip_atEntry (k : Line) :
    (atEntry m ts is (k.text ++ cs)).skip = atEntry m ts is (k.text ++ cs) :=
  skip_of_toToken [] rfl (toToken_text k false true cs)

theorem readToken?_key {c : Char} (h : isKeyChar c = true) (cs : List Char) (l : Lexer) :
    l.readToken? c cs = l.readPlain? := by
  obtain ⟨hsign, hblank, -, hdot⟩ := word_of_isKeyChar h
  have hplain : startsPlain l.inFlow c cs = true := by simp [startsPlain, hsign, hblank]
  simp [isIndicator] at hsign
  simp [readToken?, hsign, hdot.symm, Ne.symm hsign.1, hplain, startsWith, startSign, endSign]

theorem readPlain?_key (k : Line) (hm : m.column = 0) :
    (atEntry m ts is (k.text ++ cs)).readPlain? =
      some (atColon k m ts is (is.head? == some 0) (writeValue k.value ++ cs)) := by
  have hsave : (atEntry m ts is (k.text ++ cs)).saveCandidate? =
      some { atEntry m ts is (k.text ++ cs) with
        candidate := some ⟨is.head? == some 0, ts.length, m⟩ } := by
    simp [atEntry, saveCandidate?, dropCandidate?, inFlow, hm]
  have hread := fun margin =>
    readPlain_key k.isKeyChar_of_mem margin (writeValue k.value ++ cs)
  rw [← Line.text_append] at hread
  rw [readPlain?, hsave]
  simp only [Option.bind_eq_bind, Option.bind_some, atEntry, inFlow, List.isEmpty_nil, Bool.not_true,
    hread]
  rw [moveTo_append _ (k.text_append cs)]
  rfl

/-- **At a key, a step reads it as a candidate**, which may be too long. -/
theorem step?_key (hm : m.column = 0) (his : is = [] ∨ is = [0])
    (hskip : l.skip = atEntry m ts is (k.text ++ cs)) :
    l.step? =
      (atColon k m ts is (is.head? == some 0) (writeValue k.value ++ cs)).refreshAll? := by
  obtain ⟨c, cs', hc, htext⟩ := k.exists_text_eq_cons cs
  have hindents : ∀ i ∈ is, i ≤ m.column := by
    rcases his with rfl | rfl <;> simp
  rw [step?_of_skip hskip htext (refreshAll?_of_none rfl rfl) hindents, readToken?_key hc,
    readPlain?_key k hm, Option.bind_some]

theorem isStale_atColon (k : Line) (m : Mark) (isRequired : Bool) (number : Nat) :
    Candidate.isStale ⟨isRequired, number, m⟩ (m.after k.key) = decide (maxKey < k.key.length) := by
  simp [Candidate.isStale, Line.after_key]

theorem refreshAll?_atColon (hlen : k.key.length ≤ maxKey) :
    (atColon k m ts is isRequired cs).refreshAll? = some (atColon k m ts is isRequired cs) := by
  simp [atColon, refreshAll?, refresh?, isStale_atColon, Nat.not_lt.2 hlen]

theorem refreshAll?_atColon_of_long (hlen : maxKey < k.key.length) :
    (atColon k m ts is isRequired cs).refreshAll? =
      if isRequired then none
      else some ⟨':' :: ' ' :: cs, m.after k.key, ts ++ [.scalar ⟨k.key, true⟩], is, none, [],
        false⟩ := by
  cases isRequired <;> simp [atColon, refreshAll?, refresh?, isStale_atColon, hlen]

end Key

section Value

theorem readToken?_colon (cs : List Char) (l : Lexer) :
    l.readToken? ':' (' ' :: cs) = l.readValue? := by
  simp [readToken?, startsWith, startSign, endSign, endsWord, isBlank]

theorem readValue?_key (hm : m.column = 0) (his : is = [] ∨ is = [0]) :
    (atColon k m ts is isRequired cs).readValue? =
      some (inEntry ((m.after k.key).after [':'])
        (ts ++ opening is ++ [.key, .scalar ⟨k.key, true⟩, .value]) (' ' :: cs)) := by
  -- the first key opens the mapping; for a later one it is open, and at the same column
  rcases his with rfl | rfl <;>
    simp [atColon, inEntry, readValue?, insert, roll, inFlow, hm, take, moveTo, add, opening]

/-- **At the colon, the candidate becomes a key**, and the first one of them opens the mapping. -/
theorem step?_colon (hlen : k.key.length ≤ maxKey) (hm : m.column = 0) (his : is = [] ∨ is = [0]) :
    (atColon k m ts is isRequired cs).step? =
      some (inEntry ((m.after k.key).after [':'])
        (ts ++ opening is ++ [.key, .scalar ⟨k.key, true⟩, .value]) (' ' :: cs)) := by
  have hskip : (atColon k m ts is isRequired cs).skip = atColon k m ts is isRequired cs :=
    skip_of_toToken [] rfl rfl
  have hindents : ∀ i ∈ is, i ≤ (m.after k.key).column := by
    rcases his with rfl | rfl <;> simp
  rw [step?_of_skip hskip rfl (refreshAll?_atColon hlen) hindents, readToken?_colon,
    readValue?_key hm his, Option.bind_some, refreshAll?_of_none rfl rfl]

/-- A colon that no candidate stands before, where no key may stand, cannot be read. -/
theorem step?_colon_of_none (m : Mark) (ts : List Token) :
    step? ⟨':' :: ' ' :: cs, m, ts, [], none, [], false⟩ = none := by
  have hskip : skip ⟨':' :: ' ' :: cs, m, ts, [], none, [], false⟩ =
      ⟨':' :: ' ' :: cs, m, ts, [], none, [], false⟩ := skip_of_toToken [] rfl rfl
  rw [step?_of_skip hskip rfl (refreshAll?_of_none rfl rfl) (by simp), readToken?_colon]
  rfl

theorem readToken?_value {value : List Char} (h : ∀ c ∈ value, isPrintable c = true)
    (cs : List Char) (l : Lexer) :
    l.readToken? '"' (value.flatMap writeChar ++ '"' :: cs) =
      l.readWhole? (some (.scalar ⟨value, false⟩, cs)) := by
  simp [readToken?, startsWith, startSign, endSign, endsWord, isBlank, quoted, readDouble_value h,
    Gap.none]

/-- **At a value, a step reads it.** -/
theorem step?_value {value : List Char} (h : ∀ c ∈ value, isPrintable c = true) :
    (inEntry m ts (' ' :: (writeValue value ++ cs))).step? =
      some (inEntry (m.after (' ' :: writeValue value)) (ts ++ [.scalar ⟨value, false⟩]) cs) := by
  have hskip : (inEntry m ts (' ' :: (writeValue value ++ cs))).skip =
      inEntry (m.after [' ']) ts (writeValue value ++ cs) := skip_of_toToken [' '] rfl rfl
  have hrest : writeValue value ++ cs = '"' :: (value.flatMap writeChar ++ '"' :: cs) := by
    simp [writeValue]
  -- no key may stand here, so the value becomes no candidate
  have hwhole : (inEntry (m.after [' ']) ts (writeValue value ++ cs)).readWhole?
      (some (.scalar ⟨value, false⟩, cs)) =
        some (inEntry (m.after (' ' :: writeValue value)) (ts ++ [.scalar ⟨value, false⟩]) cs) := by
    simp only [inEntry, readWhole?, saveCandidate?, Bool.false_eq_true, if_false, Option.bind_some,
      allow, takeRead?, Option.map_some]
    rw [moveTo_append _ rfl]
    rfl
  rw [step?_of_skip hskip hrest (refreshAll?_of_none rfl rfl) (by simp [inEntry]),
    readToken?_value h, hwhole, Option.bind_some, refreshAll?_of_none rfl rfl]

/-- At the end of the text the mapping is closed. -/
theorem step?_end (hcs : cs = [] ∨ cs = ['\n']) (m : Mark) (ts : List Token) :
    ∃ l', (inEntry m ts cs).step? = some l' ∧ l'.tokens = ts ++ [.blockEnd, .textEnd] := by
  -- whether the last line is ended shows in the mark only
  obtain ⟨m', a, hskip⟩ : ∃ m' a, (inEntry m ts cs).skip = ⟨[], m', ts, [0], none, [], a⟩ := by
    rcases hcs with rfl | rfl <;> exact ⟨_, _, rfl⟩
  rw [step?, hskip, refreshAll?_of_none rfl rfl]
  simp only [Option.bind_eq_bind, Option.bind_some]
  rw [unroll_eq_self (by simp)]
  simp only [finish?, endLine]
  split <;> exact ⟨_, rfl, by simp [add, allow, unrollAll, inFlow]⟩

end Value

section Lines

/-- **A line adds the tokens of its entry, wherever in the mapping it stands.** -/
theorem run_line (hlen : k.key.length ≤ maxKey) (hm : m.column = 0) (his : is = [] ∨ is = [0])
    (hskip : l.skip = atEntry m ts is (k.text ++ cs))
    (hrest : (k.text ++ cs).length ≤ l.rest.length) :
    l.run = (inEntry (m.after k.text) (ts ++ opening is ++ k.tokens) cs).run := by
  have hkey : (writeValue k.value ++ cs).length + 2 < l.rest.length := by
    have hpos := List.length_pos_iff.2 k.key_ne_nil
    rw [Line.text_append, List.length_append, List.length_cons, List.length_cons] at hrest
    omega
  have hvalue : cs.length < (writeValue k.value ++ cs).length + 1 := by
    rw [List.length_append]
    omega
  calc l.run
      = (atColon k m ts is (is.head? == some 0) (writeValue k.value ++ cs)).run :=
        run_of_step ((step?_key hm his hskip).trans (refreshAll?_atColon hlen))
          (by simp [isAtEnd, atColon]) hkey
    _ = (inEntry ((m.after k.key).after [':'])
          (ts ++ opening is ++ [.key, .scalar ⟨k.key, true⟩, .value])
          (' ' :: (writeValue k.value ++ cs))).run :=
        run_of_step (step?_colon hlen hm his) (by simp [isAtEnd, inEntry]) (Nat.lt_succ_self _)
    _ = (inEntry (((m.after k.key).after [':']).after (' ' :: writeValue k.value))
          (ts ++ opening is ++ [.key, .scalar ⟨k.key, true⟩, .value] ++
            [.scalar ⟨k.value, false⟩]) cs).run :=
        run_of_step (step?_value k.isPrintable_of_mem) (by simp [isAtEnd, inEntry]) hvalue
    _ = (inEntry (m.after k.text) (ts ++ opening is ++ k.tokens) cs).run := by
        rw [Line.after_text, List.append_assoc _ [_, _, _]]
        rfl

/-- A key beyond the limit that opens no mapping is a scalar, behind which nothing can be read. -/
theorem run_longKey (hlen : maxKey < k.key.length) :
    (atEntry {} [] [] (k.text ++ cs)).run = [.scalar ⟨k.key, true⟩] := by
  have hskip : (atEntry {} [] [] (k.text ++ cs)).skip = atEntry {} [] [] (k.text ++ cs) :=
    skip_atEntry k
  have hkey := (step?_key rfl (.inl rfl) hskip).trans (refreshAll?_atColon_of_long hlen)
  have hshorter : (':' :: ' ' :: (writeValue k.value ++ cs)).length < (k.text ++ cs).length := by
    rw [Line.text_append, List.length_append]
    omega
  rw [run_of_step hkey (by simp [isAtEnd]) hshorter]
  exact run_of_none (step?_colon_of_none _ _)

/-- **Behind a line the others are read in their order**, up to a key beyond the limit. -/
theorem run_behind (isEnded : Bool) (ks : List Line) (m : Mark) (ts : List Token) :
    (inEntry m ts (textBehind isEnded ks)).run = ts ++ tokensBehind ks := by
  induction ks generalizing m ts with
  | nil =>
    have hrest : textBehind isEnded [] = [] ∨ textBehind isEnded [] = ['\n'] := by
      cases isEnded <;> simp [textBehind]
    obtain ⟨l', hstep, htokens⟩ := step?_end hrest m ts
    rw [run_of_last hstep (by simp [isAtEnd, htokens]), htokens, tokensBehind]
  | cons k ks ih =>
    rw [textBehind]
    have hskip : (inEntry m ts ('\n' :: (k.text ++ textBehind isEnded ks))).skip =
        atEntry (m.after ['\n']) ts [0] (k.text ++ textBehind isEnded ks) :=
      skip_of_toToken ['\n'] rfl (toToken_text k false true _)
    by_cases hlen : k.key.length ≤ maxKey
    · rw [run_line hlen rfl (.inr rfl) hskip (by simp [inEntry]), ih, tokensBehind, if_pos hlen]
      simp [opening]
    · -- the mapping cannot go on with anything but a key
      have hnone : (inEntry m ts ('\n' :: (k.text ++ textBehind isEnded ks))).step? = none := by
        rw [step?_key rfl (.inr rfl) hskip, refreshAll?_atColon_of_long (Nat.lt_of_not_le hlen)]
        rfl
      rw [run_of_none hnone, tokensBehind, if_neg hlen]
      simp [settled, inEntry]

end Lines

end Lexer

theorem start_text (k : Line) (rest : List Char) :
    Lexer.start (k.text ++ rest) = Lexer.atEntry {} [] [] (k.text ++ rest) := by
  obtain ⟨c, cs, hc, htext⟩ := k.exists_text_eq_cons rest
  have hmark : (k.text ++ rest).head? ≠ some Lexer.byteOrderMark := by
    rw [htext, List.head?_cons]
    intro heq
    rw [Option.some.inj heq] at hc
    exact absurd hc (by decide)
  rw [Lexer.start, if_neg hmark]
  rfl

/-- **The tokens of lines**: those of the entries in their order, up to a key beyond the limit. -/
theorem tokensOf_linesText (isEnded : Bool) (ks : List Line) :
    tokensOf (linesText isEnded ks) = tokensOfLines ks := by
  rw [tokensOf, source?_linesText]
  cases ks with
  | nil =>
    have hstep : (Lexer.start []).step? = some ⟨[], {}, [.textEnd], [], none, [], false⟩ := rfl
    exact Lexer.run_of_last hstep rfl
  | cons k ks =>
    simp only [linesText, start_text]
    rw [tokensOfLines]
    by_cases hlen : k.key.length ≤ Lexer.maxKey
    · rw [if_pos hlen, Lexer.run_line hlen rfl (.inl rfl) (Lexer.skip_atEntry k) (Nat.le_refl _),
        Lexer.run_behind, tokensBehind, if_pos hlen]
      simp [Lexer.opening]
    · rw [if_neg hlen, Lexer.run_longKey (Nat.lt_of_not_le hlen)]

end BootEnv.Yaml
