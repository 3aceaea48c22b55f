import BootEnv.Proofs.Scan

/-!
# Texts as octets

A text is searched in its UTF-8 encoding as well as in its characters. The octet that starts a character
occurs nowhere inside one, so the octets of a token stand in those of a text only where the token stands
in the text, and a scan over the octets cuts no character.

* `Text.octets`: the octets of a text.
* `octets_prefix_iff`: a text starts with another when its octets do.
* `exists_split_of_prefix_drop`: **octets of characters are found only where a character starts.**
* `occursAt_octets_iff`: the occurrences of a token in octets are those in characters.
* `LeftmostLongest.encode`, `ofText_octets`: **the cut of the octets is that of the characters, encoded.**
-/

namespace BootEnv

namespace Text

/-- The octets of a text in UTF-8. -/
def octets (cs : List Char) : List UInt8 := cs.flatMap String.utf8EncodeChar

variable {a b k text : List Char} {c : Char} {i : Nat}

@[simp] theorem octets_nil : octets [] = [] := rfl

theorem octets_cons (c : Char) (cs : List Char) :
    octets (c :: cs) = String.utf8EncodeChar c ++ octets cs := List.flatMap_cons

@[simp] theorem octets_append (a b : List Char) : octets (a ++ b) = octets a ++ octets b :=
  List.flatMap_append

theorem octets_ne_nil (h : k ≠ []) : octets k ≠ [] := by
  obtain ⟨c, cs, rfl⟩ := List.exists_cons_of_ne_nil h
  rw [octets_cons]
  exact List.append_ne_nil_of_left_ne_nil String.utf8EncodeChar_ne_nil _

theorem toByteArray_octets (cs : List Char) : (octets cs).toByteArray = cs.utf8Encode := rfl

theorem length_octets (cs : List Char) : (octets cs).length = (String.ofList cs).utf8ByteSize := by
  rw [← String.size_toByteArray, String.toByteArray_ofList, ← toByteArray_octets,
    List.size_toByteArray]

/-- **A text starts with another when its octets do**, so no encoding of a text goes on in the
middle of a character. -/
theorem octets_prefix_iff : octets a <+: octets b ↔ a <+: b := by
  constructor
  · rintro ⟨rest, hrest⟩
    refine List.isPrefix_of_utf8Encode_append_eq_utf8Encode rest.toByteArray ?_
    rw [← toByteArray_octets, ← toByteArray_octets, ← List.toByteArray_append, hrest]
  · rintro ⟨rest, rfl⟩
    rw [octets_append]
    exact List.prefix_append _ _

theorem octets_inj : octets a = octets b ↔ a = b := by
  constructor
  · intro h
    have hab : a <+: b := octets_prefix_iff.1 (h ▸ List.prefix_rfl)
    have hba : b <+: a := octets_prefix_iff.1 (h ▸ List.prefix_rfl)
    exact hab.eq_of_length_le hba.length_le
  · rintro rfl
    rfl

/-- The first octet of a text starts a character. -/
theorem isUTF8FirstByte_of_cons {o : UInt8} {os : List UInt8} (h : octets k = o :: os) :
    o.IsUTF8FirstByte := by
  cases k with
  | nil => exact absurd h (by simp)
  | cons c cs =>
    have hpos : 0 < (String.utf8EncodeChar c).length := by
      rw [String.length_utf8EncodeChar]
      exact c.utf8Size_pos
    have hfirst : (String.utf8EncodeChar c)[0] = o := by
      rw [octets_cons] at h
      have hget := congrArg (·[0]?) h
      simpa [List.getElem?_append_left hpos, List.getElem?_eq_getElem hpos] using hget
    rw [← hfirst]
    exact UInt8.isUTF8FirstByte_getElem_zero_utf8EncodeChar

/-- **The octets of some characters are found in those of a text only where a character starts.** -/
theorem exists_split_of_prefix_drop (hk : k ≠ []) (h : octets k <+: (octets text).drop i) :
    ∃ a b, text = a ++ b ∧ i = (octets a).length ∧ k <+: b := by
  induction text generalizing i with
  | nil =>
    rw [octets_nil, List.drop_nil, List.prefix_nil] at h
    exact absurd h (octets_ne_nil hk)
  | cons c cs ih =>
    rcases Nat.eq_zero_or_pos i with rfl | hi
    · exact ⟨[], c :: cs, rfl, rfl, octets_prefix_iff.1 h⟩
    rw [octets_cons] at h
    rcases Nat.lt_or_ge i (String.utf8EncodeChar c).length with hin | hout
    · -- inside a character no octet starts one
      obtain ⟨o, os, hos⟩ := List.exists_cons_of_ne_nil (octets_ne_nil hk)
      have hdrop := List.drop_eq_getElem_cons hin
      rw [List.drop_append_of_le_length hin.le, hdrop, hos, List.cons_append,
        List.cons_prefix_cons] at h
      have hfirst := isUTF8FirstByte_of_cons hos
      rw [h.1, UInt8.isUTF8FirstByte_getElem_utf8EncodeChar] at hfirst
      omega
    · obtain ⟨n, rfl⟩ := Nat.exists_eq_add_of_le hout
      rw [List.drop_length_add_append] at h
      obtain ⟨a, b, rfl, rfl, hb⟩ := ih h
      exact ⟨c :: a, b, rfl, by rw [octets_cons, List.length_append], hb⟩

end Text

open Text (octets octets_append octets_ne_nil octets_prefix_iff)

variable {k text a b : List Char} {i : Nat}

/-- **A token occurs in the octets of a text where it occurs in the text.** -/
theorem occursAt_octets_iff : OccursAt (octets k) (octets text) i ↔
    ∃ a b, text = a ++ b ∧ i = (octets a).length ∧ OccursAt k text a.length := by
  constructor
  · rintro ⟨hne, hstarts⟩
    have hk : k ≠ [] := by
      rintro rfl
      exact hne rfl
    obtain ⟨a, b, rfl, hi, hb⟩ := Text.exists_split_of_prefix_drop hk hstarts
    refine ⟨a, b, rfl, hi, hk, ?_⟩
    rwa [List.drop_left]
  · rintro ⟨a, b, rfl, rfl, hk, hstarts⟩
    rw [List.drop_left] at hstarts
    refine ⟨octets_ne_nil hk, ?_⟩
    rw [octets_append, List.drop_left, octets_prefix_iff]
    exact hstarts

/-- Of two ways to cut a text in two, the one with fewer octets in front has a front that starts the
other's. -/
theorem prefix_of_length_octets_le {c d : List Char} (h : a ++ b = c ++ d)
    (hle : (octets a).length ≤ (octets c).length) : a <+: c := by
  have ha : octets a <+: octets (c ++ d) := by
    rw [← h, octets_append]
    exact List.prefix_append _ _
  have hc : octets c <+: octets (c ++ d) := by
    rw [octets_append]
    exact List.prefix_append _ _
  exact octets_prefix_iff.1 (List.prefix_of_prefix_length_le ha hc hle)

namespace Cut

/-- A cut text in octets. -/
def encode (s : Cut Char) : Cut UInt8 :=
  ⟨s.pieces.map fun p => (octets p.1, octets p.2), octets s.tail⟩

/-- **The leftmost-longest cut of a text, in octets, is that of its octets.** -/
theorem LeftmostLongest.encode {tokens : Set (List Char)} {s : Cut Char}
    (h : LeftmostLongest tokens text s) :
    LeftmostLongest (octets '' tokens) (octets text) s.encode := by
  obtain ⟨ps, tail⟩ := s
  induction ps generalizing text with
  | nil =>
    obtain ⟨rfl, hfree⟩ := leftmostLongest_nil_iff.1 h
    refine leftmostLongest_nil_iff.2 ⟨rfl, ?_⟩
    rintro i - _ ⟨x, hx, rfl⟩ hocc
    obtain ⟨a, b, -, -, hocc⟩ := occursAt_octets_iff.1 hocc
    exact hfree a.length hocc.lt_length x hx hocc
  | cons p ps ih =>
    obtain ⟨gap, k⟩ := p
    obtain ⟨rest, rfl, ⟨hmem, hne⟩, hfree, hlong, hrest⟩ := leftmostLongest_cons_iff.1 h
    refine leftmostLongest_cons_iff.2
      ⟨octets rest, by simp only [octets_append], ⟨⟨k, hmem, rfl⟩, octets_ne_nil hne⟩, ?_, ?_, ih hrest⟩
    · rintro i hi _ ⟨x, hx, rfl⟩ hocc
      obtain ⟨a, b, hab, rfl, hchars⟩ := occursAt_octets_iff.1 hocc
      -- what has fewer octets than the gap ends inside it
      have hstarts : a <+: gap := by
        rw [List.append_assoc] at hab
        exact prefix_of_length_octets_le hab.symm hi.le
      have hlt : a.length < gap.length := by
        refine lt_of_le_of_ne hstarts.length_le fun hlen => ?_
        rw [hstarts.eq_of_length hlen] at hi
        exact absurd hi (lt_irrefl _)
      exact hfree a.length hlt x hx hchars
    · rintro _ ⟨x, hx, rfl⟩ hocc
      obtain ⟨a, b, hab, hlen, hocc⟩ := occursAt_octets_iff.1 hocc
      have hgap : gap = a := by
        rw [List.append_assoc] at hab
        exact (prefix_of_length_octets_le hab hlen.le).eq_of_length_le
          (prefix_of_length_octets_le hab.symm hlen.ge).length_le
      subst hgap
      -- both tokens stand there, so the shorter one starts the longer
      have hk : OccursAt k (gap ++ k ++ rest) gap.length := h.occursAt_first
      have hxk : x <+: k := List.prefix_of_prefix_length_le hocc.2 hk.2 (hlong x hx hocc)
      exact (octets_prefix_iff.2 hxk).length_le

/-- **The scan over the octets of a text finds what the scan over its characters finds.** -/
theorem ofText_octets (tokens : List (List Char)) (text : List Char) :
    ofText (tokens.map octets) (octets text) = (ofText tokens text).encode := by
  have hscan := leftmostLongest_ofText (tokens.map octets) (octets text)
  have hencoded := (leftmostLongest_ofText tokens text).encode
  have htokens : {k | k ∈ tokens.map octets} = octets '' {k | k ∈ tokens} := by
    ext k
    simp
  rw [htokens] at hscan
  exact hscan.unique hencoded

end Cut

end BootEnv
