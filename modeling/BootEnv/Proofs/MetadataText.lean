import BootEnv.Proofs.JsonReading
import BootEnv.Proofs.Members

/-!
# Metadata from the text of an object

The text is read from the front and stops at the first thing wrong with it. What is read is what the
members come to, whatever the layout of the text: a field is read from the text of its value, and the
value of any other member is skipped as a whole.

* `Reads`, `Reads.bind`: what a reader makes of a text with a rest behind it, and one reader after
  another.
* `readAddress_text`, `readMember_text`, `readMembers_text`: an address, a member, and **all members one
  after the other**.
* `ofText_eq_ok_iff`: the metadata in the text of an object.
* `ofText_object`: **which objects hold metadata, and which it is.**
-/

namespace BootEnv

namespace Metadata

open Json (isBlank skipBlanks readWord readString skipValue StringText ValueText SpacedText MembersText
  NumberEnds)

variable {α : Type} {c : Char} {name cs ns back gap text rest : List Char} {v : Json}
  {fields : Fields} {members members' : List (List Char × Json)}

section Readers

/-- What a reader makes of a text with a rest behind it: it takes what the text says, and leaves blanks
at its end, or it fails when the text says nothing that can be taken. -/
def Reads (r : Except Fault (α × List Char)) (text rest : List Char) : Option α → Prop
  | some a => ∃ gap, Json.IsGap gap ∧ gap <:+ text ∧ r = .ok (a, gap ++ rest)
  | none => ∃ fault, r = .error fault

/-- **A reader goes on from what another one left.** -/
theorem Reads.bind {β : Type} {r : Except Fault (α × List Char)} {o : Option α} {o' : α → Option β}
    {f : α × List Char → Except Fault (β × List Char)} {text' rest' : List Char}
    (h : Reads r text rest o)
    (hnext : ∀ a gap, Json.IsGap gap → gap <:+ text → Reads (f (a, gap ++ rest)) text' rest' (o' a)) :
    Reads (r >>= f) text' rest' (o.bind o') := by
  cases o with
  | none =>
    obtain ⟨fault, rfl⟩ := h
    exact ⟨fault, rfl⟩
  | some a =>
    obtain ⟨gap, hgap, hsuffix, rfl⟩ := h
    exact hnext a gap hgap hsuffix

theorem Reads.map {β : Type} {r : Except Fault (α × List Char)} {o : Option α}
    (h : Reads r text rest o) (f : α → β) :
    Reads (do let (a, cs) ← r; return (f a, cs)) text rest (o.map f) := by
  rw [Option.map_eq_bind]
  exact h.bind fun _ gap hgap hsuffix => ⟨gap, hgap, hsuffix, rfl⟩

theorem exists_refuse (wanted : Wanted) (cs : List Char) :
    ∃ fault, refuse (α := α) wanted cs = .error fault := by
  unfold refuse
  generalize ofJson (α := Found) _ = found
  cases found with
  | error fault => exact ⟨fault, rfl⟩
  | ok found => exact ⟨.wrongKind found wanted, rfl⟩

/-- Reading an address, by the character in front of it. -/
theorem readAddress_of_front (h : skipBlanks cs = c :: rest) :
    readAddress cs =
      if c = 'n' then do
        let rest ← ofJson (readWord "ull".toList rest)
        return (none, rest)
      else if c = '"' then do
        let (s, rest) ← ofJson (readString rest)
        match Address.parse? s with
        | some a => return (some a, rest)
        | none => throw .badAddress
      else refuse .address cs := by
  unfold readAddress
  rw [h]
  split_ifs with hnull hquote
  · subst hnull
    rfl
  · subst hquote
    rfl
  · split
    next h' => exact absurd (List.cons.inj h').1 hnull
    next h' => exact absurd (List.cons.inj h').1 hquote
    next => rfl

/-- **An address is read from the texts of a good value**, and from those of no other. -/
theorem readAddress_text (h : SpacedText v text) (rest : List Char) :
    Reads (readAddress (text ++ rest)) text rest (addressOf? v) := by
  obtain @⟨front, _, cs, back, hfront, hv, hback⟩ := h
  have hsuffix : back <:+ front ++ cs ++ back := List.suffix_append _ back
  have hfronts : ∀ c tail, cs = c :: tail → isBlank c = false →
      skipBlanks (front ++ cs ++ back ++ rest) = c :: (tail ++ (back ++ rest)) := by
    rintro c tail rfl hc
    rw [List.append_assoc, List.append_assoc]
    exact Json.skipBlanks_gap_cons hfront hc _
  have hrefuse : ∀ c tail, cs = c :: tail → isBlank c = false → c ≠ 'n' → c ≠ '"' →
      Reads (readAddress (front ++ cs ++ back ++ rest)) (front ++ cs ++ back) rest none := by
    intro c tail hcs hc hnull hquote
    rw [readAddress_of_front (hfronts c tail hcs hc), if_neg hnull, if_neg hquote]
    exact exists_refuse _ _
  cases hv with
  | null =>
    refine ⟨back, hback, hsuffix, ?_⟩
    rw [readAddress_of_front (hfronts 'n' "ull".toList rfl (by decide)), if_pos rfl,
      Json.readWord_append]
    rfl
  | @string s ns hs =>
    rw [readAddress_of_front (hfronts '"' ns rfl (by decide)), if_neg (by decide), if_pos rfl,
      Json.readString_text hs]
    show Reads (match Address.parse? s with
      | some a => .ok (some a, back ++ rest)
      | none => .error .badAddress) _ rest ((Address.parse? s).map some)
    cases Address.parse? s with
    | none => exact ⟨.badAddress, rfl⟩
    | some a => exact ⟨back, hback, hsuffix, rfl⟩
  | number hn =>
    cases hn with
    | positive _ hn =>
      obtain ⟨d, tail, rfl, hd⟩ := hn.front
      exact hrefuse d tail rfl (Json.isBlank_of_isDigit hd) (Json.ne_of_isDigit hd (by decide))
        (Json.ne_of_isDigit hd (by decide))
    | negative _ _ => exact hrefuse '-' _ rfl (by decide) (by decide) (by decide)
  | isTrue | isFalse | emptyList _ | list _ | emptyObject _ | object _ =>
    exact hrefuse _ _ rfl (by decide) (by decide) (by decide)

theorem readColon_text (hback : Json.IsGap back) (cs : List Char) :
    readColon (back ++ ':' :: cs) = .ok cs := by
  unfold readColon
  rw [Json.skipBlanks_gap_cons hback (by decide)]
  rfl

/-- **A member is read as it is taken**: one of a field for its address, any other passed over. -/
theorem readMember_text (fields : Fields) (hname : StringText name ns) (hback : Json.IsGap back)
    (h : SpacedText v text) (hrest : NumberEnds rest) :
    Reads (readMember fields (ns ++ (back ++ ':' :: (text ++ rest)))) text rest
      (addMember? fields (name, v)) := by
  have hcolon := readColon_text hback (text ++ rest)
  have hread := Json.readString_text hname (back ++ ':' :: (text ++ rest))
  cases hfield : field? name with
  | none =>
    obtain ⟨gap, hgap, hsuffix, hskip⟩ := Json.skipValue_spaced h hrest
    have hforeign : addMember? fields (name, v) = some fields :=
      addMember?_foreign (field?_eq_none_iff.1 hfield)
    rw [hforeign]
    refine ⟨gap, hgap, hsuffix, ?_⟩
    simp only [readMember, ofJson, Except.mapError, hread, Json.ok_bind, hfield, hcolon, hskip]
    rfl
  | some w =>
    obtain rfl := field?_eq_some_iff.1 hfield
    rw [addMember?_field]
    simp only [readMember, ofJson, Except.mapError, hread, Json.ok_bind, hfield, hcolon]
    split_ifs with hold
    · exact ⟨.repeated w, rfl⟩
    · exact (readAddress_text h rest).map _

/-- What stands in front of a member: nothing before the first, and a comma before the others. -/
def Leads (isFirst : Bool) (lead : List Char) : Prop :=
  if isFirst then lead = [] else ∃ gap, Json.IsGap gap ∧ lead = gap ++ [',']

theorem readNameStart_member {isFirst : Bool} {lead front : List Char} (hlead : Leads isFirst lead)
    (hfront : Json.IsGap front) (cs : List Char) :
    readNameStart isFirst (lead ++ (front ++ '"' :: cs)) = .ok (some cs) := by
  have hquote : skipBlanks (front ++ '"' :: cs) = '"' :: cs :=
    Json.skipBlanks_gap_cons hfront (by decide) cs
  unfold readNameStart
  cases isFirst with
  | true =>
    obtain rfl : lead = [] := hlead
    rw [List.nil_append, hquote]
    rfl
  | false =>
    obtain ⟨gap, hgap, rfl⟩ : ∃ gap, Json.IsGap gap ∧ lead = gap ++ [','] := hlead
    rw [List.append_assoc, List.singleton_append, Json.skipBlanks_gap_cons hgap (by decide)]
    dsimp only
    rw [hquote]
    rfl

theorem readMembers_end (isFirst : Bool) (fields : Fields) (hgap : Json.IsGap gap) (rest : List Char) :
    readMembers isFirst fields (gap ++ '\x7d' :: rest) = .ok (fields, '\x7d' :: rest) := by
  have hbrace : skipBlanks (gap ++ '\x7d' :: rest) = '\x7d' :: rest :=
    Json.skipBlanks_gap_cons hgap (by decide) rest
  have hstart : readNameStart isFirst (gap ++ '\x7d' :: rest) = .ok none := by
    unfold readNameStart
    rw [hbrace]
    rfl
  rw [readMembers, hstart, Json.ok_bind, hbrace]
  rfl

/-- **One member is read, and then what is behind it**, with the fields that it leaves. -/
theorem readMembers_member {isFirst : Bool} {lead front behind : List Char}
    {next : Fields → Option Fields} (fields : Fields) (hlead : Leads isFirst lead)
    (hfront : Json.IsGap front) (hname : StringText name ns) (hback : Json.IsGap back) (h : SpacedText v text)
    (hrest : NumberEnds rest)
    (hnext : ∀ fields' gap, Json.IsGap gap →
      Reads (readMembers false fields' (gap ++ rest)) [] behind (next fields')) :
    Reads (readMembers isFirst fields
      (lead ++ (front ++ '"' :: (ns ++ (back ++ ':' :: (text ++ rest)))))) [] behind
      ((addMember? fields (name, v)).bind next) := by
  have hmember := readMember_text fields hname hback h hrest
  rw [readMembers, readNameStart_member hlead hfront, Json.ok_bind]
  dsimp only
  refine hmember.bind fun fields' gap hgap hsuffix => ?_
  have hlength := hsuffix.length_le
  rw [if_pos (by simp only [List.length_append, List.length_cons]; omega)]
  exact hnext fields' gap hgap

/-- **The members of an object are read as they are taken**, one after the other. -/
theorem readMembers_text : ∀ {members text}, MembersText members text →
    ∀ {isFirst lead}, Leads isFirst lead → ∀ fields rest,
      Reads (readMembers isFirst fields (lead ++ (text ++ rest))) [] ('\x7d' :: rest)
        (members.foldlM addMember? fields)
  -- a comma is read with the member behind it, so the statement has what leads up to the members in it
  | _, _, .last (.mk hfront hname hback h), isFirst, lead, hlead, fields, rest => by
    have hnext : ∀ fields' gap, Json.IsGap gap →
        Reads (readMembers false fields' (gap ++ '\x7d' :: rest)) [] ('\x7d' :: rest)
          (some fields') := fun fields' gap hgap =>
      ⟨[], Json.isGap_nil, List.suffix_rfl, readMembers_end false fields' hgap rest⟩
    have hread := readMembers_member fields hlead hfront hname hback h
      (Json.numberEnds_cons (c := '\x7d') (by decide) rest) hnext
    simpa using hread
  | _, _, @MembersText.cons _ _ members tail (.mk hfront hname hback h) hmembers, isFirst, lead,
      hlead, fields, rest => by
    have hnext : ∀ fields' gap, Json.IsGap gap →
        Reads (readMembers false fields' (gap ++ ',' :: (tail ++ rest))) [] ('\x7d' :: rest)
          (members.foldlM addMember? fields') := by
      intro fields' gap hgap
      have hlead' : Leads false (gap ++ [',']) := ⟨gap, hgap, rfl⟩
      have hread := readMembers_text hmembers hlead' fields' rest
      rwa [List.append_assoc] at hread
    have hread := readMembers_member fields hlead hfront hname hback h
      (Json.numberEnds_cons (c := ',') (by decide) (tail ++ rest)) hnext
    simpa using hread

theorem readMembers_object (h : ValueText (.object members) text) :
    ∃ cs, text = '\x7b' :: cs ∧ ∀ rest,
      Reads (readMembers true [] (cs ++ rest)) [] ('\x7d' :: rest)
        (members.foldlM addMember? []) := by
  cases h with
  | @emptyObject gap hgap =>
    refine ⟨gap ++ ['\x7d'], rfl, fun rest => ⟨[], Json.isGap_nil, List.suffix_rfl, ?_⟩⟩
    rw [List.append_assoc, List.singleton_append, readMembers_end true [] hgap rest]
    rfl
  | @object _ cs h =>
    have hlead : Leads true [] := rfl
    exact ⟨cs, rfl, fun rest => readMembers_text h hlead [] rest⟩

/-- **A text holds what is read from it**, when only blanks are left behind that. -/
theorem ofText_eq_ok_iff_of_reads {text : String} {o : Option Fields} (hback : Json.IsGap back)
    (h : Reads (readFields text.toList) [] back o) {m : Metadata} :
    ofText text = .ok m ↔ ∃ fields, o = some fields ∧ ofFields fields = m := by
  have hblank : skipBlanks back = [] := by simpa [skipBlanks] using Json.skipBlanks_gap hback []
  cases o with
  | none =>
    obtain ⟨fault, hfault⟩ := h
    have herror : ofText text = .error fault := by
      unfold ofText
      rw [hfault]
      rfl
    simp [herror]
  | some fields =>
    obtain ⟨gap, -, hgap, hok⟩ := h
    obtain rfl := List.suffix_nil.1 hgap
    have hread : ofText text = .ok (ofFields fields) := by
      unfold ofText
      rw [hok, Json.ok_bind]
      dsimp only
      rw [List.nil_append, hblank]
      rfl
    simp [hread]

theorem readFields_object {front inner : List Char} (hfront : Json.IsGap front) {o : Option Fields}
    (h : Reads (readMembers true [] inner) [] ('\x7d' :: rest) o) :
    Reads (readFields (front ++ '\x7b' :: inner)) [] rest o := by
  have hfields : readFields (front ++ '\x7b' :: inner) =
      readMembers true [] inner >>= fun r => closeObject r.2 >>= fun rest => .ok (r.1, rest) := by
    unfold readFields
    rw [Json.skipBlanks_gap_cons hfront (by decide)]
    rfl
  rw [hfields, ← o.bind_fun_some]
  refine h.bind fun fields gap _ hgap => ?_
  obtain rfl := List.suffix_nil.1 hgap
  exact ⟨[], Json.isGap_nil, List.suffix_rfl, rfl⟩

/-- **The text of an object is read as its members are taken.** -/
theorem ofText_eq_ok_iff {text : String} (h : SpacedText (.object members) text.toList)
    {m : Metadata} : ofText text = .ok m ↔
      ∃ fields, members.foldlM addMember? [] = some fields ∧ ofFields fields = m := by
  generalize hcs : text.toList = cs at h
  obtain @⟨front, _, object, back, hfront, hobject, hback⟩ := h
  obtain ⟨inner, rfl, hmembers⟩ := readMembers_object hobject
  refine ofText_eq_ok_iff_of_reads hback ?_
  rw [hcs, List.append_assoc]
  exact readFields_object hfront (hmembers back)

end Readers

section Objects

variable {text text' : String} {m : Metadata}

/-- A field has the address that some member of its name says. -/
theorem get_eq_some_iff (h : SpacedText (.object members) text.toList) (hm : ofText text = .ok m)
    (w : WellKnown) (a : Address) : m.get w = some a ↔
      ∃ s, (w.member.toList, .string s) ∈ members ∧ Address.parse? s = some a := by
  obtain ⟨fields, hfields, rfl⟩ := (ofText_eq_ok_iff h).1 hm
  rw [ofFields, get_ofFunction, Option.join_eq_some_iff, lookup_addMembers hfields]
  constructor
  · rintro (hnone | ⟨v, hv, ha⟩)
    · exact absurd hnone (by simp)
    · cases v <;> simp [addressOf?] at ha
      exact ⟨_, hv, ha⟩
  · rintro ⟨s, hs, ha⟩
    refine .inr ⟨.string s, hs, ?_⟩
    rw [addressOf?, ha]
    rfl

theorem exists_ofText_iff (h : SpacedText (.object members) text.toList) :
    (∃ m, ofText text = .ok m) ↔ Fits members := by
  simp only [ofText_eq_ok_iff h, ← exists_addMembers_nil_iff]
  constructor
  · rintro ⟨m, fields, hfields, -⟩
    exact ⟨fields, hfields⟩
  · rintro ⟨fields, hfields⟩
    exact ⟨ofFields fields, fields, hfields, rfl⟩

theorem ext_get {m m' : Metadata} (h : ∀ w a, m.get w = some a ↔ m'.get w = some a) : m = m' := by
  have hget : m.get = m'.get := funext fun w => Option.ext (h w)
  rw [← ofFunction_get m, ← ofFunction_get m', hget]

/-- Texts of objects with the same members for fields say the same. -/
theorem ofText_of_perm (h : SpacedText (.object members) text.toList)
    (h' : SpacedText (.object members') text'.toList)
    (hperm : (fieldMembers members').Perm (fieldMembers members)) (hm : ofText text = .ok m) :
    ofText text' = .ok m := by
  have hfits : Fits members := (exists_ofText_iff h).1 ⟨m, hm⟩
  obtain ⟨m', hm'⟩ := (exists_ofText_iff h').2 ((fits_congr hperm).2 hfits)
  have hsame : m' = m := by
    refine ext_get fun w a => ?_
    simp only [get_eq_some_iff h' hm', get_eq_some_iff h hm, mem_congr hperm]
  rw [hm', hsame]

/-- **An object holds metadata when no field is named twice and each is null or an address.** -/
theorem ofText_object (members : List (List Char × Json)) :
    SpacedText (.object members) (Json.object members).write ∧
    ∀ text : String, SpacedText (.object members) text.toList →
      ((∃ m, ofText text = .ok m) ↔ Fits members) ∧
      (∀ m, ofText text = .ok m → ∀ w : WellKnown,
        (∀ s, (w.member.toList, .string s) ∈ members → m.get w = Address.parse? s) ∧
        ((w.member.toList, .null) ∈ members ∨ w.member.toList ∉ members.map Prod.fst →
          m.get w = none)) ∧
      ∀ (members' : List (List Char × Json)) (text' : String),
        SpacedText (.object members') text'.toList →
        (fieldMembers members').Perm (fieldMembers members) →
        ∀ m, ofText text' = .ok m ↔ ofText text = .ok m := by
  refine ⟨.of_valueText (Json.valueText_write _), fun text h =>
    ⟨exists_ofText_iff h, fun m hm w => ?_, ?_⟩⟩
  · obtain ⟨honce, hgood⟩ := (exists_ofText_iff h).1 ⟨m, hm⟩
    refine ⟨fun s hs => ?_, fun hnone => ?_⟩
    · rcases hgood w _ hs with hnull | ⟨s', a, hs', ha⟩
      · cases hnull
      · cases hs'
        rw [ha, get_eq_some_iff h hm]
        exact ⟨s, hs, ha⟩
    · rw [Option.eq_none_iff_forall_ne_some]
      intro a ha
      obtain ⟨s, hs, -⟩ := (get_eq_some_iff h hm w a).1 ha
      rcases hnone with hnull | habsent
      · exact Json.noConfusion (eq_of_count_le_one (honce w) hnull hs)
      · exact habsent (List.mem_map_of_mem hs)
  · intro members' text' h' hperm m
    exact ⟨ofText_of_perm h' h hperm.symm, ofText_of_perm h h' hperm⟩

/-- Members of another name, one with a field's name and a number of any size inside, do not matter, nor
do blanks; a field that is null twice does. -/
theorem ofText_object_nested :
    (∃ m, ofText
        "\x7b\"x\":[\x7b\"public_ipv4\":7\x7d,-1e999],\"x\":true,\"public_ipv4\":\"::1\"\x7d" = .ok m ∧
      ofText " \x7b\"public_ipv4\" :\"::1\"\x7d" = .ok m ∧
      m.get .publicV4 = Address.parse? "::1".toList ∧ m.get .publicV6 = none) ∧
    ¬ ∃ m, ofText "\x7b\"public_ipv4\":null,\"public_ipv4\":null\x7d" = .ok m := by
  let name := "public_ipv4".toList
  let value := Json.string "::1".toList
  let inner := Json.array
    [.object [(name, .number ⟨false, 7, [], none⟩)], .number ⟨true, 1, [], some 999⟩]
  let members := [(['x'], inner), (['x'], .bool true), (name, value)]
  refine ⟨?_, ?_⟩
  · have h : SpacedText (.object members)
        "\x7b\"x\":[\x7b\"public_ipv4\":7\x7d,-1e999],\"x\":true,\"public_ipv4\":\"::1\"\x7d".toList :=
      (ofText_object members).1
    have h' : SpacedText (.object [(name, value)]) " \x7b\"public_ipv4\" :\"::1\"\x7d".toList := by
      have hblank : Json.IsGap [' '] := by simp [Json.IsGap]
      exact .mk hblank (.object (.last (.mk Json.isGap_nil (Json.stringText_flatMap name) hblank
        (.of_valueText (Json.valueText_write value))))) Json.isGap_nil
    obtain ⟨hfits, hget, hsame⟩ := (ofText_object members).2 _ h
    have honly : ∀ {w : WellKnown} {v}, (w.member.toList, v) ∈ members → v = value := by
      intro w v hv
      simp only [members, List.mem_cons, Prod.mk.injEq, List.mem_nil_iff, or_false] at hv
      rcases hv with ⟨hx, -⟩ | ⟨hx, -⟩ | ⟨-, hvalue⟩
      · exact absurd hx (by cases w <;> decide)
      · exact absurd hx (by cases w <;> decide)
      · exact hvalue
    obtain ⟨m, hm⟩ := hfits.2 ⟨fun w => by cases w <;> decide, fun w v hv =>
      .inr ⟨_, .v6 ⟨[0, 0, 0, 0, 0, 0, 0, 1], rfl⟩, honly hv, by decide⟩⟩
    have hperm : (fieldMembers [(name, value)]).Perm (fieldMembers members) := .refl _
    refine ⟨m, hm, (hsame _ _ h' hperm m).2 hm, ?_, ?_⟩
    · exact (hget m hm .publicV4).1 _ (by simp [members, name, value, WellKnown.member])
    · exact (hget m hm .publicV6).2 (.inr (by decide))
  · have h : SpacedText (.object [(name, .null), (name, .null)])
        "\x7b\"public_ipv4\":null,\"public_ipv4\":null\x7d".toList := (ofText_object _).1
    rw [((ofText_object _).2 _ h).1]
    intro hfits
    exact absurd (hfits.once .publicV4) (by decide)

end Objects

end Metadata

end BootEnv
