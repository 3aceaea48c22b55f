import BootEnv.Yaml.Scalar.Block
import BootEnv.Yaml.Scalar.Plain
import BootEnv.Yaml.Scalar.Quoted
import BootEnv.Yaml.Token.Property

/-!
# The tokens of a text

Tokens are taken from a text one by one. Outside brackets the columns at which tokens start show
where lists and mappings begin and end. Whether something is a key shows only at the colon behind
it; until then it is a candidate, and the token that says so is put in front of it later. A key lies
on one line and within a limit.

* `Lexer`: what is known at a place of the text.
* `Lexer.step?`: one token further.
* `tokensOf`: the tokens of a text, as far as they are certain.
-/

namespace BootEnv.Yaml

/-- Something that may turn out to be a key: whether it has to, and how many tokens and how much
text lie before it. -/
structure Candidate where
  isRequired : Bool
  number : Nat
  mark : Mark
  deriving Repr, DecidableEq

/-- The state of reading a text, at the place where `rest` begins. -/
structure Lexer where
  rest : List Char
  mark : Mark := {}
  tokens : List Token := []
  /-- The columns of the lists and mappings around the place, the innermost first. -/
  indents : List Nat := []
  /-- What may be a key here. -/
  candidate : Option Candidate := none
  /-- What may be a key outside of each open bracket, the innermost first. -/
  outer : List (Option Candidate) := []
  /-- What comes next may be a key. -/
  allowsKey : Bool := true
  deriving Repr, DecidableEq

namespace Lexer

/-- The longest key with the text up to its colon. -/
def maxKey : Nat := 1024

/-- The place is inside brackets. -/
def inFlow (l : Lexer) : Bool := !l.outer.isEmpty

/-- The column behind that of the innermost list or mapping. -/
def margin (l : Lexer) : Nat := (l.indents.head?.map (· + 1)).getD 0

/-- The place where the text `rest` begins, which ends the text of the state. -/
def moveTo (l : Lexer) (rest : List Char) : Lexer :=
  { l with rest, mark := l.mark.after (l.rest.take (l.rest.length - rest.length)) }

/-- One more token. -/
def add (t : Token) (l : Lexer) : Lexer := { l with tokens := l.tokens ++ [t] }

/-- One more token, put in front of the one with the given number. -/
def insert (number : Nat) (t : Token) (l : Lexer) : Lexer :=
  { l with tokens := l.tokens.take number ++ t :: l.tokens.drop number }

/-- Whether what comes next may be a key. -/
def allow (isAllowed : Bool) (l : Lexer) : Lexer := { l with allowsKey := isAllowed }

/-! ## Candidates for keys -/

/-- The state without a candidate; `none` if the candidate has to be a key. -/
def dropCandidate? (l : Lexer) : Option Lexer :=
  if l.candidate.any (·.isRequired) then none else some { l with candidate := none }

/-- The state with what comes next as candidate, if that may be a key. It has to be one where the
innermost mapping goes on. -/
def saveCandidate? (l : Lexer) : Option Lexer :=
  if l.allowsKey then
    l.dropCandidate?.map fun l' =>
      { l' with candidate := some {
          isRequired := !l.inFlow && l.indents.head? == some l.mark.column
          number := l.tokens.length
          mark := l.mark } }
  else some l

/-- The candidate can no longer be a key. -/
def Candidate.isStale (c : Candidate) (m : Mark) : Bool :=
  c.mark.line < m.line || c.mark.index + maxKey < m.index

/-- The candidate if it can still be a key; `none` if it cannot but has to. -/
def refresh? (m : Mark) : Option Candidate → Option (Option Candidate)
  | none => some none
  | some c => if Candidate.isStale c m then (if c.isRequired then none else some none) else some c

/-- The state without the candidates that can no longer be keys. -/
def refreshAll? (l : Lexer) : Option Lexer := do
  let candidate ← refresh? l.mark l.candidate
  let outer ← l.outer.mapM (refresh? l.mark)
  return { l with candidate, outer }

/-! ## Indentation -/

/-- Closes what is indented further than a column. -/
def unroll (column : Nat) (l : Lexer) : Lexer :=
  if l.inFlow then l
  else
    { l with
      tokens := l.tokens ++ (l.indents.takeWhile (column < ·)).map fun _ => .blockEnd
      indents := l.indents.dropWhile (column < ·) }

/-- Closes all that is indented. -/
def unrollAll (l : Lexer) : Lexer :=
  if l.inFlow then l
  else { l with tokens := l.tokens ++ l.indents.map fun _ => .blockEnd, indents := [] }

/-- Opens a list or a mapping at a column, in front of the token with the given number, unless one
is open there. -/
def roll (column number : Nat) (t : Token) (l : Lexer) : Lexer :=
  if l.inFlow || l.indents.head?.any (column ≤ ·) then l
  else { l.insert number t with indents := column :: l.indents }

/-! ## Tokens -/

/-- Moves past the given number of characters, which are one token. -/
def take (size : Nat) (t : Token) (l : Lexer) : Lexer := (l.moveTo (l.rest.drop size)).add t

/-- Moves past what a reader has read as one token. -/
def takeRead? (r : Option (Token × List Char)) (l : Lexer) : Option Lexer :=
  r.map fun r => (l.moveTo r.2).add r.1

/-- A line that belongs to no document: a directive, or a sign between documents. -/
def leave? (l : Lexer) : Option Lexer := l.unrollAll.dropCandidate?.map (allow false)

/-- A bracket that opens. -/
def openFlow? (t : Token) (l : Lexer) : Option Lexer :=
  l.saveCandidate?.map fun l =>
    { l.take 1 t with candidate := none, outer := l.candidate :: l.outer, allowsKey := true }

/-- A bracket that closes. -/
def closeFlow? (t : Token) (l : Lexer) : Option Lexer :=
  l.dropCandidate?.map fun l =>
    { l.take 1 t with
      candidate := l.outer.head?.getD l.candidate
      outer := l.outer.tail
      allowsKey := false }

/-- The sign of an item. -/
def readItem? (l : Lexer) : Option Lexer :=
  if l.inFlow || l.allowsKey then
    (l.roll l.mark.column l.tokens.length .blockList).dropCandidate?.map fun l =>
      (l.take 1 .item).allow true
  else none

/-- The sign of a key. -/
def readKey? (l : Lexer) : Option Lexer :=
  if l.inFlow || l.allowsKey then
    (l.roll l.mark.column l.tokens.length .blockMap).dropCandidate?.map fun l =>
      (l.take 1 .key).allow (!l.inFlow)
  else none

/-- The colon of a value. The candidate before it is a key. -/
def readValue? (l : Lexer) : Option Lexer :=
  match l.candidate with
  | some c =>
    let l := (l.insert c.number .key).roll c.mark.column c.number .blockMap
    some ({ l with candidate := none, allowsKey := false }.take 1 .value)
  | none =>
    if l.inFlow || l.allowsKey then
      some (((l.roll l.mark.column l.tokens.length .blockMap).allow (!l.inFlow)).take 1 .value)
    else none

/-- An anchor, an alias, a tag or a quoted scalar. -/
def readWhole? (r : Option (Token × List Char)) (l : Lexer) : Option Lexer :=
  l.saveCandidate?.bind fun l => (l.allow false).takeRead? r

/-- A block scalar. -/
def readBlock? (isFolded : Bool) (l : Lexer) : Option Lexer :=
  l.dropCandidate?.bind fun l' =>
    (l'.allow true).takeRead? ((readBlock isFolded l.margin l.rest.tail).map fun r =>
      (.scalar ⟨r.1, false⟩, r.2))

/-- A plain scalar. Behind a line break another key may follow. -/
def readPlain? (l : Lexer) : Option Lexer := do
  let l ← l.saveCandidate?
  let (text, gap, rest) ← readPlain ⟨l.inFlow, l.margin⟩ .none l.rest
  return ((l.moveTo rest).add (.scalar ⟨text, true⟩)).allow gap.isBroken

/-- A scalar in quotes. -/
def quoted (r : Option (List Char × List Char)) : Option (Token × List Char) :=
  r.map fun r => (.scalar ⟨r.1, false⟩, r.2)

/-- An anchor or an alias. -/
def named (t : List Char → Token) (cs : List Char) : Option (Token × List Char) :=
  (readAnchor? cs).map fun r => (t r.1, r.2)

/-- A sign with which no plain scalar starts. -/
def isIndicator (c : Char) : Bool := "-?:,[]\x7b\x7d#&*!|>'\"%@\x60".toList.contains c

/-- A plain scalar starts with the character `c` in front of a text. -/
def startsPlain (inFlow : Bool) (c : Char) (cs : List Char) : Bool :=
  !(isBlank c || isIndicator c) || (c == '-' && !cs.head?.any isBlank) ||
    (!inFlow && (c == '?' || c == ':') && !endsWord cs)

/-- The token that starts with the character `c` in front of the text `cs`. -/
def readToken? (c : Char) (cs : List Char) (l : Lexer) : Option Lexer :=
  let isFirst := l.mark.column == 0
  if isFirst && c == '%' then l.leave?.bind (takeRead? (readDirective? cs))
  else if isFirst && startsWith startSign (c :: cs) then l.leave?.map (take 3 .documentStart)
  else if isFirst && startsWith endSign (c :: cs) then l.leave?.map (take 3 .documentEnd)
  else if c = '[' then l.openFlow? .flowList
  else if c = '\x7b' then l.openFlow? .flowMap
  else if c = ']' then l.closeFlow? .flowListEnd
  else if c = '\x7d' then l.closeFlow? .flowMapEnd
  else if c = ',' then l.dropCandidate?.map fun l' => allow true (take 1 .comma l')
  else if c = '-' ∧ endsWord cs then l.readItem?
  else if c = '?' ∧ (l.inFlow || endsWord cs) then l.readKey?
  else if c = ':' ∧ (l.inFlow || endsWord cs) then l.readValue?
  else if c = '*' then l.readWhole? (named .alias cs)
  else if c = '&' then l.readWhole? (named .anchor cs)
  else if c = '!' then l.readWhole? (readTag? l.inFlow (c :: cs))
  else if c = '|' ∧ !l.inFlow then l.readBlock? false
  else if c = '>' ∧ !l.inFlow then l.readBlock? true
  else if c = '\'' then l.readWhole? (quoted (readSingle .none cs))
  else if c = '"' then l.readWhole? (quoted (readDouble .none cs))
  else if startsPlain l.inFlow c cs then l.readPlain?
  else none

/-- The text from the next token on, and whether a key may stand there. A tab counts as blank where
no key may stand. -/
def toToken (inFlow : Bool) (inComment allowsKey : Bool) : List Char → Bool × List Char
  | [] => (allowsKey, [])
  | c :: cs =>
    if isBreak c then toToken inFlow false (allowsKey || !inFlow) cs
    else if inComment then toToken inFlow true allowsKey cs
    else if c = ' ' ∨ (c = '\t' ∧ (inFlow || !allowsKey)) then toToken inFlow false allowsKey cs
    else if c = '#' then toToken inFlow true allowsKey cs
    else (allowsKey, c :: cs)

/-- The place of the next token. -/
def skip (l : Lexer) : Lexer :=
  let (allowsKey, rest) := toToken l.inFlow false l.allowsKey l.rest
  (l.moveTo rest).allow allowsKey

/-- The place behind the last line, also when that line does not end in a break. -/
def endLine (l : Lexer) : Lexer :=
  if l.mark.column = 0 then l else { l with mark := ⟨l.mark.index, l.mark.line + 1, 0⟩ }

/-- The end of the text. -/
def finish? (l : Lexer) : Option Lexer := l.endLine.leave?.map (add .textEnd)

/-- One token further; at the end of the text, the last token. -/
def step? (l : Lexer) : Option Lexer := do
  let l ← l.skip.refreshAll?
  let l := l.unroll l.mark.column
  let l ← match l.rest with
    | [] => l.finish?
    | c :: cs => l.readToken? c cs
  l.refreshAll?

/-- The tokens in front of which no other can be put any more. -/
def settled (l : Lexer) : List Token :=
  l.tokens.take ((l.candidate :: l.outer).foldl
    (fun least c => min least (c.elim least (·.number))) l.tokens.length)

/-- The last token has been read. -/
def isAtEnd (l : Lexer) : Bool := l.tokens.getLast? == some .textEnd

/-- The tokens that follow. Each step but the last makes the rest shorter; asking whether it does
only serves to show that the reading ends. -/
def run (l : Lexer) : List Token :=
  match l.step? with
  | none => l.settled
  | some l' =>
    if l'.isAtEnd then l'.tokens
    else if l'.rest.length < l.rest.length then run l'
    else l.settled
termination_by l.rest.length

/-- The mark of byte order that may open a text. It takes a column. -/
def byteOrderMark : Char := '\uFEFF'

/-- The place in front of a text, behind its mark of byte order if it has one. -/
def start (cs : List Char) : Lexer :=
  let l : Lexer := { rest := cs }
  if cs.head? = some byteOrderMark then l.moveTo cs.tail else l

end Lexer

/-- The tokens of a text: all of them, or those that are certain before something that cannot be
read. -/
def tokensOf (text : List Char) : List Token :=
  match source? text with
  | some cs => (Lexer.start cs).run
  | none => []

end BootEnv.Yaml
