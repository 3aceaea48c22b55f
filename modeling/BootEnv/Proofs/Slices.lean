import BootEnv.Proofs.Octets
import Mathlib.Data.List.Basic

/-!
# Substitution by slices of octets

The scan is run over the octets of a text and tells where tokens start and stop. What is written is cut
out of the octets between these places; a slice that does not start and stop between two characters has
no meaning, so it is nothing. Every slice that is needed has one.

* `Hit`, `Cut.hits`: the tokens of a cut text with their places.
* `slice?`: the octets between two places of a text.
* `Substitution.splice?`: the text written out from slices.
* `stands_of_mem_hitsFrom`, `pairwise_hitsFrom`: **tokens are found between characters, one behind the
  other.**
* `splice?_hitsFrom`: the slices of a run are defined, and make up what the characters are replaced by.
* `apply_by_slices`: **both, for all tables and texts.**
-/

namespace BootEnv

open Text (octets octets_append octets_inj)

/-- A token found in a text, with the places where it starts and where it stops. -/
structure Hit (α : Type) where
  start : Nat
  stop : Nat
  token : List α
  deriving Repr, DecidableEq

/-- The tokens of some pieces, when so much of the text lies in front of them. -/
def Cut.hitsFrom {α : Type} (copied : Nat) : List (List α × List α) → List (Hit α)
  | [] => []
  | (gap, k) :: ps =>
    let start := copied + gap.length
    ⟨start, start + k.length, k⟩ :: hitsFrom (start + k.length) ps

/-- The tokens of a cut text, with their places. -/
def Cut.hits {α : Type} (s : Cut α) : List (Hit α) := hitsFrom 0 s.pieces

/-- The octets of a text from one place to another. Both have to lie between characters, the first one
not behind the second. -/
def slice? (text : String) (start stop : Nat) : Option (List UInt8) :=
  if start ≤ stop ∧ (⟨start⟩ : String.Pos.Raw).IsValid text ∧ (⟨stop⟩ : String.Pos.Raw).IsValid text
  then some (((octets text.toList).take stop).drop start)
  else none

namespace Substitution

/-- The octet of the sign that escapes a token. -/
def escapeOctet : UInt8 := 0x5C

/-- The tokens in the octets of a text. -/
def octetHits (s : Substitution) (text : String) : List (Hit UInt8) :=
  (Cut.ofText (s.tokens.map octets) (octets text.toList)).hits

/-- The value of a token, both in octets. -/
def octetValue (s : Substitution) (k : List UInt8) : List UInt8 :=
  ((s.rules.map fun r => (octets r.1, octets r.2)).lookup k).getD []

/-- What is written for a token and the gap in front of it, when the text is written up to there. -/
def splicePiece? (s : Substitution) (text : String) (copied : Nat) (h : Hit UInt8) :
    Option (List UInt8) := do
  let gap ← slice? text copied h.start
  if gap.getLast? = some escapeOctet then
    let before ← slice? text copied (h.start - 1)
    return before ++ h.token
  else return gap ++ s.octetValue h.token

/-- The octets of a text with its tokens replaced, from the place on up to which it is written, put
together from slices; nothing if one of these is not defined. -/
def splice? (s : Substitution) (text : String) (copied : Nat) :
    List (Hit UInt8) → Option (List UInt8)
  | [] => slice? text copied text.utf8ByteSize
  | h :: hs => do
    let piece ← s.splicePiece? text copied h
    let rest ← s.splice? text h.stop hs
    return piece ++ rest

end Substitution

/-- A token stands in the octets of a text, from between two characters to between two characters. -/
structure Hit.Stands (text : String) (h : Hit UInt8) : Prop where
  occurs : OccursAt h.token (octets text.toList) h.start
  stop_eq : h.stop = h.start + h.token.length
  start_isValid : (⟨h.start⟩ : String.Pos.Raw).IsValid text
  stop_isValid : (⟨h.stop⟩ : String.Pos.Raw).IsValid text

section Places

variable {a b c gap pre tail : List Char} {ps : List (List Char × List Char)} {h : Hit UInt8}

/-- What lies behind some characters lies between characters. -/
theorem isValid_length_octets (a b : List Char) :
    (⟨(octets a).length⟩ : String.Pos.Raw).IsValid (String.ofList (a ++ b)) := by
  rw [String.Pos.Raw.isValid_ofList]
  exact ⟨a.length, by rw [List.take_left, Text.length_octets]⟩

/-- **A slice between characters is defined**: it has the octets of what stands there. -/
theorem slice?_append (a b c : List Char) :
    slice? (String.ofList (a ++ b ++ c)) (octets a).length (octets (a ++ b)).length =
      some (octets b) := by
  have hstart : (⟨(octets a).length⟩ : String.Pos.Raw).IsValid (String.ofList (a ++ b ++ c)) := by
    rw [List.append_assoc]
    exact isValid_length_octets a (b ++ c)
  have hle : (octets a).length ≤ (octets (a ++ b)).length := by
    rw [octets_append, List.length_append]
    omega
  unfold slice?
  rw [if_pos ⟨hle, hstart, isValid_length_octets (a ++ b) c⟩, String.toList_ofList,
    octets_append (a ++ b), List.take_left, octets_append a, List.drop_left]

/-- The places behind the first piece of a cut text. -/
theorem hitsFrom_encode_cons (pre gap k : List Char) (ps : List (List Char × List Char)) :
    Cut.hitsFrom (octets pre).length (Cut.encode ⟨(gap, k) :: ps, tail⟩).pieces =
      ⟨(octets (pre ++ gap)).length, (octets (pre ++ gap ++ k)).length, octets k⟩ ::
        Cut.hitsFrom (octets (pre ++ gap ++ k)).length (Cut.encode ⟨ps, tail⟩).pieces := by
  simp only [Cut.encode, Cut.hitsFrom, List.map_cons, octets_append, List.length_append]

/-- **Every token is found between characters.** -/
theorem stands_of_mem_hitsFrom (hne : ∀ p ∈ ps, p.2 ≠ [])
    (hmem : h ∈ Cut.hitsFrom (octets pre).length (Cut.encode ⟨ps, tail⟩).pieces) :
    h.Stands (String.ofList (pre ++ Cut.flatten ⟨ps, tail⟩)) := by
  induction ps generalizing pre with
  | nil => simp [Cut.encode, Cut.hitsFrom] at hmem
  | cons p ps ih =>
    obtain ⟨gap, k⟩ := p
    have hflat : pre ++ Cut.flatten ⟨(gap, k) :: ps, tail⟩ =
        pre ++ gap ++ k ++ Cut.flatten ⟨ps, tail⟩ := by
      simp [Cut.flatten]
    rw [hitsFrom_encode_cons] at hmem
    rw [hflat]
    rcases List.mem_cons.1 hmem with rfl | hmem
    · refine ⟨⟨Text.octets_ne_nil (hne (gap, k) List.mem_cons_self), ?_⟩, ?_, ?_,
        isValid_length_octets (pre ++ gap ++ k) _⟩
      · show octets k <+: (octets (String.ofList _).toList).drop (octets (pre ++ gap)).length
        rw [String.toList_ofList, List.append_assoc (pre ++ gap), octets_append (pre ++ gap),
          List.drop_left, octets_append k]
        exact List.prefix_append _ _
      · show (octets (pre ++ gap ++ k)).length = (octets (pre ++ gap)).length + (octets k).length
        rw [octets_append (pre ++ gap), List.length_append]
      · rw [List.append_assoc (pre ++ gap)]
        exact isValid_length_octets (pre ++ gap) _
    · exact ih (fun p hp => hne p (List.mem_cons_of_mem _ hp)) hmem

/-- The tokens of some pieces start no earlier than these. -/
theorem le_start_of_mem_hitsFrom {α : Type} {copied : Nat} {ps : List (List α × List α)} {h : Hit α}
    (hmem : h ∈ Cut.hitsFrom copied ps) : copied ≤ h.start := by
  induction ps generalizing copied with
  | nil => simp [Cut.hitsFrom] at hmem
  | cons p ps ih =>
    rcases List.mem_cons.1 hmem with rfl | hmem
    · exact Nat.le_add_right _ _
    · have hle := ih hmem
      omega

/-- **A token starts behind the ones before it.** -/
theorem pairwise_hitsFrom {α : Type} (copied : Nat) (ps : List (List α × List α)) :
    (Cut.hitsFrom copied ps).Pairwise fun h h' => h.stop ≤ h'.start := by
  induction ps generalizing copied with
  | nil => exact List.Pairwise.nil
  | cons p ps ih => exact List.pairwise_cons.2 ⟨fun h' hh' => le_start_of_mem_hitsFrom hh', ih _⟩

end Places

namespace Substitution

variable {s : Substitution} {gap k pre tail : List Char} {ps : List (List Char × List Char)}

/-- **An escape shows in the last octet**, which is in no longer encoding of a character. -/
theorem getLast?_octets_eq_escapeOctet_iff :
    (octets gap).getLast? = some escapeOctet ↔ gap.getLast? = some escape := by
  constructor
  · intro h
    rcases List.eq_nil_or_concat' gap with rfl | ⟨front, c, rfl⟩
    · exact absurd h (by simp)
    · have hc : String.utf8EncodeChar c ≠ [] := String.utf8EncodeChar_ne_nil
      have hlast : (String.utf8EncodeChar c).getLast hc = escapeOctet := by
        have hoctets : octets (front ++ [c]) = octets front ++ String.utf8EncodeChar c := by
          rw [octets_append, Text.octets_cons, Text.octets_nil, List.append_nil]
        rw [hoctets, List.getLast?_append_of_ne_nil _ hc, List.getLast?_eq_some_getLast hc] at h
        exact Option.some.inj h
      -- the octet starts a character, so it is the first one of this character as well as the last
      have hfirst : escapeOctet.IsUTF8FirstByte := by decide
      rw [← hlast, List.getLast_eq_getElem, UInt8.isUTF8FirstByte_getElem_utf8EncodeChar] at hfirst
      have hlength : (String.utf8EncodeChar c).length = 1 := by
        have hpos := List.length_pos_iff.2 hc
        omega
      obtain ⟨o, ho⟩ := List.length_eq_one_iff.1 hlength
      have hone : octets [c] = octets [escape] := by
        simp only [ho, List.getLast_singleton] at hlast
        rw [Text.octets_cons, ho, hlast]
        rfl
      rw [List.getLast?_concat, List.singleton_inj.1 (octets_inj.1 hone)]
  · intro h
    obtain ⟨front, rfl⟩ := List.getLast?_eq_some_iff.1 h
    rw [octets_append]
    exact List.getLast?_concat

/-- The value of a token in octets is the value of the token, in octets. -/
theorem octetValue_octets (s : Substitution) (k : List Char) :
    s.octetValue (octets k) = octets (s.value k) := by
  unfold octetValue value
  induction s.rules with
  | nil => rfl
  | cons r rs ih =>
    rw [List.map_cons, List.lookup_cons, List.lookup_cons]
    by_cases hk : k = r.1
    · simp [hk]
    · have ho : octets k ≠ octets r.1 := fun h => hk (octets_inj.1 h)
      simp only [beq_eq_false_iff_ne.2 hk, beq_eq_false_iff_ne.2 ho, ih]

/-- The slices of one piece are defined, and what is written for it is what its characters are
replaced by. -/
theorem splicePiece?_octets (s : Substitution) (pre gap k back : List Char) (stop : Nat) :
    s.splicePiece? (String.ofList (pre ++ gap ++ back)) (octets pre).length
        ⟨(octets (pre ++ gap)).length, stop, octets k⟩ =
      some (octets (if gap.getLast? = some escape then gap.dropLast ++ k else gap ++ s.value k)) := by
  have hgap := slice?_append pre gap back
  unfold splicePiece?
  dsimp only
  rw [hgap, Option.bind_eq_bind, Option.bind_some]
  by_cases hescape : gap.getLast? = some escape
  · rw [if_pos hescape, if_pos (getLast?_octets_eq_escapeOctet_iff.2 hescape)]
    obtain ⟨front, rfl⟩ := List.getLast?_eq_some_iff.1 hescape
    -- the slice in front of the escape stops one octet earlier
    have hstop : (octets (pre ++ (front ++ [escape]))).length - 1 = (octets (pre ++ front)).length := by
      have hone : (octets [escape]).length = 1 := rfl
      rw [← List.append_assoc, octets_append, List.length_append, hone, Nat.add_sub_cancel]
    have htext : pre ++ (front ++ [escape]) ++ back = pre ++ front ++ ([escape] ++ back) := by simp
    have hfront := slice?_append pre front ([escape] ++ back)
    rw [← htext] at hfront
    rw [hstop, hfront, Option.bind_some, List.dropLast_concat, octets_append]
    rfl
  · rw [if_neg hescape, if_neg fun h => hescape (getLast?_octets_eq_escapeOctet_iff.1 h)]
    rw [octetValue_octets, octets_append]
    rfl

/-- **All slices of a run are defined**, and written one after the other they are the octets of the
replaced text. -/
theorem splice?_hitsFrom (s : Substitution) (pre tail : List Char)
    (ps : List (List Char × List Char)) :
    s.splice? (String.ofList (pre ++ Cut.flatten ⟨ps, tail⟩)) (octets pre).length
        (Cut.hitsFrom (octets pre).length (Cut.encode ⟨ps, tail⟩).pieces) =
      some (octets (Cut.replace escape s.value ⟨ps, tail⟩)) := by
  induction ps generalizing pre with
  | nil =>
    have hslice := slice?_append pre tail []
    rw [List.append_nil, Text.length_octets (pre ++ tail)] at hslice
    exact hslice
  | cons p ps ih =>
    obtain ⟨gap, k⟩ := p
    have hflat : pre ++ Cut.flatten ⟨(gap, k) :: ps, tail⟩ =
        pre ++ gap ++ (k ++ Cut.flatten ⟨ps, tail⟩) := by
      simp [Cut.flatten]
    have hpiece := s.splicePiece?_octets pre gap k (k ++ Cut.flatten ⟨ps, tail⟩)
    have hrest := ih (pre ++ gap ++ k)
    rw [List.append_assoc (pre ++ gap)] at hrest
    rw [hitsFrom_encode_cons, hflat, splice?, hpiece, hrest, Cut.replace_cons, octets_append]
    rfl

/-- **Substitution cuts no character.** The tokens in the octets of a text are those of its
leftmost-longest cut; they stand between characters and one behind the other; all slices that are written
are defined; and what they make up is the text that the substitution makes of the characters, in octets. -/
theorem apply_by_slices (t : Table) (text : String) :
    (∃ s, Cut.LeftmostLongest {k | k ∈ (ofTable t).tokens.map octets} (octets text.toList) s ∧
      (ofTable t).octetHits text = s.hits) ∧
    (∀ h ∈ (ofTable t).octetHits text, h.Stands text) ∧
    ((ofTable t).octetHits text).Pairwise (fun h h' => h.stop ≤ h'.start) ∧
    (ofTable t).splice? text 0 ((ofTable t).octetHits text) =
      some (octets ((ofTable t).apply text).toList) := by
  have hcut := Cut.leftmostLongest_ofText (ofTable t).tokens text.toList
  have hhits : (ofTable t).octetHits text = Cut.hitsFrom (octets []).length
      (Cut.ofText (ofTable t).tokens text.toList).encode.pieces := by
    unfold octetHits
    rw [Cut.ofText_octets]
    rfl
  have htext : String.ofList ([] ++ (Cut.ofText (ofTable t).tokens text.toList).flatten) = text := by
    rw [hcut.flatten_eq, List.nil_append, String.ofList_toList]
  refine ⟨⟨_, Cut.leftmostLongest_ofText _ _, rfl⟩, ?_⟩
  rw [hhits]
  refine ⟨fun h hmem => ?_, pairwise_hitsFrom _ _, ?_⟩
  · have hstands := stands_of_mem_hitsFrom (fun p hp => (hcut.token_mem p hp).2) hmem
    rwa [htext] at hstands
  · have hsplice := splice?_hitsFrom (ofTable t) [] (Cut.ofText (ofTable t).tokens text.toList).tail
      (Cut.ofText (ofTable t).tokens text.toList).pieces
    rw [htext] at hsplice
    exact hsplice.trans (by rw [apply, String.toList_ofList, applyChars])

/-- A token of two octets each behind a character of three, the second one escaped. -/
example : (⟨[("ü".toList, "¢".toList)]⟩ : Substitution).octetHits "→ü\\ü" =
    [⟨3, 5, [0xC3, 0xBC]⟩, ⟨6, 8, [0xC3, 0xBC]⟩] := by
  decide +kernel

end Substitution

end BootEnv
