/-!
# The text of a YAML document

What a document is made of: its characters, the breaks between its lines, and places in it.

* `source?`: the characters of a document in which every line break is spelled as one character;
  nothing if some character may not occur.
* `isBreak`, `isBlank`, `endsWord`: what ends lines and words.
* `Mark.after`: the place behind a piece of text.
* `lineRest?`: what follows a line that holds nothing more but a comment.
-/

namespace BootEnv.Yaml

/-- A line break, when line breaks have one spelling. -/
def isBreak (c : Char) : Bool := c == '\n' || c == '\u2028' || c == '\u2029'

/-- A blank within a line. -/
def isBlank (c : Char) : Bool := c == ' ' || c == '\t'

/-- A word ends in front of the text. -/
def endsWord : List Char → Bool
  | [] => true
  | c :: _ => isBlank c || isBreak c

/-- A character that may stand in names. -/
def isWordChar (c : Char) : Bool := c.isAlphanum || c == '_' || c == '-'

/-- A character that may occur in a document. -/
def isAllowed (c : Char) : Bool :=
  c == '\t' || c == '\n' || c == '\r' || c == '\u0085' ||
    [(0x20, 0x7E), (0xA0, 0xD7FF), (0xE000, 0xFFFD), (0x10000, 0x10FFFF)].any fun r =>
      r.1 ≤ c.toNat && c.toNat ≤ r.2

/-- The text with a newline for each carriage return, with or without a newline behind it, and for
each next-line character. -/
def unifyBreaks : List Char → List Char
  | [] => []
  | '\r' :: '\n' :: cs => '\n' :: unifyBreaks cs
  | c :: cs => (if c = '\r' ∨ c = '\u0085' then '\n' else c) :: unifyBreaks cs

/-- The characters of a document; `none` if one of them may not occur. -/
def source? (text : List Char) : Option (List Char) :=
  if text.all isAllowed then some (unifyBreaks text) else none

/-- A place in a text: how much of it, and how much of its line, lies before. -/
structure Mark where
  index : Nat := 0
  line : Nat := 0
  column : Nat := 0
  deriving Repr, DecidableEq

namespace Mark

/-- The place behind one character. -/
def next (m : Mark) (c : Char) : Mark :=
  if isBreak c then ⟨m.index + 1, m.line + 1, 0⟩ else ⟨m.index + 1, m.line, m.column + 1⟩

/-- The place behind a piece of text. -/
def after (m : Mark) (piece : List Char) : Mark := piece.foldl next m

@[simp] theorem after_nil (m : Mark) : m.after [] = m := rfl

theorem after_append (m : Mark) (a b : List Char) : m.after (a ++ b) = (m.after a).after b := by
  simp [after]

/-- **Within a line, only the column moves on.** -/
theorem after_of_forall_not_break {cs : List Char} (h : ∀ c ∈ cs, isBreak c = false) (m : Mark) :
    m.after cs = ⟨m.index + cs.length, m.line, m.column + cs.length⟩ := by
  induction cs generalizing m with
  | nil => rfl
  | cons c cs ih =>
    have hc := h c List.mem_cons_self
    have := ih (fun x hx => h x (List.mem_cons_of_mem c hx)) (m.next c)
    rw [after, List.foldl_cons, ← after, this]
    simp only [next, hc, Bool.false_eq_true, if_false, List.length_cons]
    congr 1 <;> omega

end Mark

/-- The sign that starts a document. -/
def startSign : List Char := "---".toList

/-- The sign that ends a document. -/
def endSign : List Char := "...".toList

/-- The text starts with a sign that stands for itself. -/
def startsWith (sign cs : List Char) : Bool :=
  sign.isPrefixOf cs && endsWord (cs.drop sign.length)

/-- A document starts or ends in front of the text, if that is the start of a line. -/
def atSign (cs : List Char) : Bool := startsWith startSign cs || startsWith endSign cs

/-- The text behind a line that holds nothing but blanks and a comment. -/
def lineRest? (cs : List Char) : Option (List Char) :=
  let cs := cs.dropWhile isBlank
  let cs := if cs.head? = some '#' then cs.dropWhile (!isBreak ·) else cs
  match cs with
  | [] => some []
  | c :: cs => if isBreak c then some cs else none

end BootEnv.Yaml
