/-!
# Blank characters

The characters that separate words: Unicode's `White_Space`, twenty-five of them, of which six
are ASCII.

* `isBlank`: the class itself.
* `isBlankText`: a text with nothing but blanks in it, the empty text included.
-/

namespace BootEnv.Text

/-- Code points with the property `White_Space`, as closed intervals in ascending order. -/
def blankRanges : List (Nat × Nat) :=
  [(0x09, 0x0D), (0x20, 0x20), (0x85, 0x85), (0xA0, 0xA0), (0x1680, 0x1680), (0x2000, 0x200A),
   (0x2028, 0x2029), (0x202F, 0x202F), (0x205F, 0x205F), (0x3000, 0x3000)]

/-- A character that separates words. -/
def isBlank (c : Char) : Bool :=
  blankRanges.any fun r => r.1 ≤ c.toNat && c.toNat ≤ r.2

/-- A text that leaves nothing when blanks are trimmed from its ends. -/
def isBlankText (s : String) : Bool :=
  s.toList.all isBlank

@[simp] theorem isBlankText_empty : isBlankText "" = true := rfl

theorem isBlank_return : isBlank '\r' = true := rfl

end BootEnv.Text
