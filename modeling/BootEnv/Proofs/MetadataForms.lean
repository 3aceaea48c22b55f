import BootEnv.Proofs.AddressReading
import BootEnv.Proofs.MetadataText
import Mathlib.Data.List.DropRight

/-!
# The forms of metadata

Metadata can be written as an object with a member for each address, or as the list of the addresses in
the order of the fields. A list may be cut short: fields without an item have no address. Whatever the
layout of the text, each form is read back as the metadata it was written for.

* `addItems?`: what the items of a list come to.
* `readList_text`: **the items of a list are read as they are taken**, up to the bracket behind them.
* `ofText_list_eq_ok_iff`: the metadata in the text of a list.
* `Form`: the values that say the same as some metadata.
* `ofText_form`: **every form is read back.**
-/

namespace BootEnv

namespace Metadata

open Json (skipBlanks SpacedText ItemsText ValueText)

variable {c : Char} {w : WellKnown} {ws : List WellKnown} {cs lead gap text rest behind : List Char}
  {v : Json} {vs items : List Json} {isFirst : Bool} {m : Metadata}

section Items

/-- The fields that list items come to, one after the other: there are no more items than fields, and
none is bad. -/
def addItems? : List WellKnown → List Json → Option Fields
  | _, [] => some []
  | [], _ :: _ => none
  | w :: ws, v :: vs => (addressOf? v).bind fun a => (addItems? ws vs).map ((w, a) :: ·)

/-- The items for fields, and the bracket behind them. -/
def readList (isFirst : Bool) (ws : List WellKnown) (cs : List Char) :
    Except Fault (Fields × List Char) := do
  let (fields, rest) ← readItems isFirst ws cs
  return (fields, ← closeList rest)

theorem readItems_end (isFirst : Bool) (ws : List WellKnown) (hgap : Json.IsGap gap)
    (rest : List Char) : readItems isFirst ws (gap ++ ']' :: rest) = .ok ([], gap ++ ']' :: rest) := by
  cases ws with
  | nil => rw [readItems]; rfl
  | cons w ws =>
    have hstart : readItemStart isFirst (gap ++ ']' :: rest) = .ok none := by
      unfold readItemStart
      rw [Json.skipBlanks_gap_cons hgap (by decide)]
      rfl
    rw [readItems, hstart]
    rfl

theorem readList_end (isFirst : Bool) (ws : List WellKnown) (hgap : Json.IsGap gap)
    (rest : List Char) : readList isFirst ws (gap ++ ']' :: rest) = .ok ([], rest) := by
  unfold readList
  rw [readItems_end isFirst ws hgap, Json.ok_bind]
  dsimp only
  unfold closeList
  rw [Json.skipBlanks_gap_cons hgap (by decide)]
  rfl

/-- Where no bracket stands the list is not closed. -/
theorem exists_closeList (h : skipBlanks cs = c :: rest) (hc : c ≠ ']') :
    ∃ fault, closeList cs = .error fault := by
  unfold closeList
  rw [h]
  split
  next h' => exact absurd h' (by simp)
  next h' => exact absurd (List.cons.inj h').1 hc
  next => split <;> exact ⟨_, rfl⟩
  next => exact ⟨_, rfl⟩

/-- When no field is left, a further item is a fault. -/
theorem exists_readList_nil (hlead : Leads isFirst lead) (h : SpacedText v text) (rest : List Char) :
    ∃ fault, readList isFirst [] (lead ++ (text ++ rest)) = .error fault := by
  have hclose : ∃ fault, closeList (lead ++ (text ++ rest)) = .error fault := by
    cases isFirst with
    | true =>
      obtain rfl : lead = [] := hlead
      obtain ⟨c, tail, hfront, hc⟩ := h.front rest
      exact exists_closeList hfront hc
    | false =>
      obtain ⟨gap, hgap, rfl⟩ : ∃ gap, Json.IsGap gap ∧ lead = gap ++ [','] := hlead
      rw [List.append_assoc, List.singleton_append]
      exact exists_closeList (Json.skipBlanks_gap_cons hgap (by decide) _) (by decide)
  obtain ⟨fault, hfault⟩ := hclose
  refine ⟨fault, ?_⟩
  unfold readList
  rw [readItems, pure_bind]
  dsimp only
  rw [hfault]
  rfl

theorem readAddress_skipBlanks (cs : List Char) : readAddress (skipBlanks cs) = readAddress cs := by
  have hskip : skipBlanks (skipBlanks cs) = skipBlanks cs := List.dropWhile_idempotent ..
  unfold readAddress refuse
  rw [hskip]

/-- An item starts behind what leads up to it. -/
theorem readItemStart_item (hlead : Leads isFirst lead) (h : SpacedText v text) (rest : List Char) :
    readItemStart isFirst (lead ++ (text ++ rest)) = .ok (some (skipBlanks (text ++ rest))) := by
  obtain ⟨c, tail, hfront, hc⟩ := h.front rest
  unfold readItemStart
  cases isFirst with
  | true =>
    obtain rfl : lead = [] := hlead
    rw [List.nil_append, hfront]
    dsimp only
    rw [if_neg hc]
    rfl
  | false =>
    obtain ⟨gap, hgap, rfl⟩ : ∃ gap, Json.IsGap gap ∧ lead = gap ++ [','] := hlead
    rw [List.append_assoc, List.singleton_append, Json.skipBlanks_gap_cons hgap (by decide)]
    dsimp only
    rw [if_neg (by decide), if_neg (by decide), if_pos rfl, hfront]
    split
    next h' => exact absurd h' (by simp)
    next h' => exact absurd (List.cons.inj h').1 hc
    next => rfl

/-- The address of a field is read, and then the other items. -/
theorem readList_cons (hlead : Leads isFirst lead) (h : SpacedText v text) (rest : List Char) :
    readList isFirst (w :: ws) (lead ++ (text ++ rest)) = do
      let (a, rest) ← readAddress (text ++ rest)
      let (fields, rest) ← readList false ws rest
      return ((w, a) :: fields, rest) := by
  unfold readList
  rw [readItems, readItemStart_item hlead h, Json.ok_bind]
  dsimp only
  rw [readAddress_skipBlanks]
  cases readAddress (text ++ rest) with
  | error fault => rfl
  | ok r =>
    obtain ⟨a, rest⟩ := r
    rw [Json.ok_bind, Json.ok_bind]
    dsimp only
    cases readItems false ws rest with
    | error fault => rfl
    | ok r =>
      obtain ⟨fields, rest⟩ := r
      rw [Json.ok_bind, Json.ok_bind, pure_bind]
      dsimp only
      cases closeList rest <;> rfl

/-- **One more item**: it is taken when its address is good and what comes behind it is taken. -/
theorem readList_item {o : Option Fields} (w : WellKnown) (hlead : Leads isFirst lead)
    (h : SpacedText v text) (hnext : ∀ gap, Json.IsGap gap →
      Reads (readList false ws (gap ++ rest)) [] behind o) :
    Reads (readList isFirst (w :: ws) (lead ++ (text ++ rest))) [] behind
      ((addressOf? v).bind fun a => o.map ((w, a) :: ·)) := by
  rw [readList_cons hlead h]
  exact (readAddress_text h rest).bind fun a gap hgap _ => (hnext gap hgap).map ((w, a) :: ·)

/-- **The items of a list are read as they are taken**, up to the bracket behind them. -/
theorem readList_text : ∀ {items text}, ItemsText items text →
    ∀ {isFirst lead}, Leads isFirst lead → ∀ ws rest,
      Reads (readList isFirst ws (lead ++ (text ++ rest))) [] rest (addItems? ws items)
  -- a comma is read with the item behind it, so the statement has what leads up to the items in it
  | _, _, .last h, isFirst, lead, hlead, [], rest => by
    obtain ⟨fault, hfault⟩ := exists_readList_nil hlead h (']' :: rest)
    exact ⟨fault, by simpa using hfault⟩
  | _, _, .last h, isFirst, lead, hlead, w :: ws, rest => by
    have hnext : ∀ gap, Json.IsGap gap →
        Reads (readList false ws (gap ++ ']' :: rest)) [] rest (some []) := fun gap hgap =>
      ⟨[], Json.isGap_nil, List.suffix_rfl, readList_end false ws hgap rest⟩
    have hread := readList_item w hlead h hnext
    have hitems : addItems? ws [] = some [] := by cases ws <;> rfl
    rw [addItems?, hitems]
    simpa using hread
  | _, _, @ItemsText.cons _ _ _ tail h _, isFirst, lead, hlead, [], rest => by
    obtain ⟨fault, hfault⟩ := exists_readList_nil hlead h (',' :: (tail ++ rest))
    exact ⟨fault, by simpa using hfault⟩
  | _, _, @ItemsText.cons _ _ items tail h hitems, isFirst, lead, hlead, w :: ws, rest => by
    have hnext : ∀ gap, Json.IsGap gap →
        Reads (readList false ws (gap ++ ',' :: (tail ++ rest))) [] rest (addItems? ws items) := by
      intro gap hgap
      have hlead' : Leads false (gap ++ [',']) := ⟨gap, hgap, rfl⟩
      have hread := readList_text hitems hlead' ws rest
      rwa [List.append_assoc] at hread
    have hread := readList_item w hlead h hnext
    rw [addItems?]
    simpa using hread

theorem readFields_list (h : ValueText (.array items) text) {front : List Char}
    (hfront : Json.IsGap front) (rest : List Char) :
    Reads (readFields (front ++ (text ++ rest))) [] rest (addItems? WellKnown.all items) := by
  have hfields : ∀ cs, readFields (front ++ '[' :: cs) = readList true WellKnown.all cs := by
    intro cs
    unfold readFields readList
    rw [Json.skipBlanks_gap_cons hfront (by decide)]
    rfl
  cases h with
  | emptyList hgap =>
    refine ⟨[], Json.isGap_nil, List.suffix_rfl, ?_⟩
    rw [List.append_assoc, List.cons_append, hfields]
    exact readList_end true _ hgap rest
  | list h =>
    have hlead : Leads true [] := rfl
    rw [List.cons_append, hfields]
    exact readList_text h hlead WellKnown.all rest

/-- **The text of a list is read as its items are taken.** -/
theorem ofText_list_eq_ok_iff {text : String} (h : SpacedText (.array items) text.toList) :
    ofText text = .ok m ↔ ∃ fields, addItems? WellKnown.all items = some fields ∧ ofFields fields = m := by
  generalize hcs : text.toList = cs at h
  obtain @⟨front, _, list, back, hfront, hlist, hback⟩ := h
  refine ofText_eq_ok_iff_of_reads hback ?_
  rw [hcs, List.append_assoc]
  exact readFields_list hlist hfront back

end Items

section Forms

/-- The values of the addresses, in the order of the fields. -/
def values (m : Metadata) : List Json := WellKnown.all.map fun w => addressJson (m.get w)

/-- **The values that say the same as `m`**: the object with a member for each address, and the list of
the addresses with any number of nulls left out at its end. -/
inductive Form (m : Metadata) : Json → Prop
  | object : Form m m.toJson
  | list {vs : List Json} (n : ℕ) (h : vs ++ List.replicate n .null = m.values) : Form m (.array vs)

theorem addressOf?_addressJson (a : Option Address) : addressOf? (addressJson a) = some a := by
  cases a with
  | none => rfl
  | some a =>
    rw [addressJson, addressOf?, Address.parse?_print]
    rfl

theorem addressJson_eq_null_iff {a : Option Address} : addressJson a = .null ↔ a = none := by
  cases a <;> simp [addressJson]

/-- **Values cut short of nulls give the fields back**: those that are left by their items, the others as
absent. -/
theorem exists_addItems (m : Metadata) {ws : List WellKnown} (hws : ws.Nodup) {vs : List Json} {n : ℕ}
    (h : vs ++ List.replicate n .null = ws.map fun w => addressJson (m.get w)) :
    ∃ fields : Fields, addItems? ws vs = some fields ∧
      ∀ w ∈ ws, (fields.lookup w).join = m.get w := by
  induction ws generalizing vs with
  | nil =>
    obtain rfl : vs = [] := (List.append_eq_nil_iff.1 h).1
    exact ⟨[], rfl, fun w hw => absurd hw List.not_mem_nil⟩
  | cons x ws ih =>
    cases vs with
    | nil =>
      refine ⟨[], rfl, fun w hw => ?_⟩
      have hnull : addressJson (m.get w) = .null := by
        refine List.eq_of_mem_replicate (n := n) ?_
        rw [List.nil_append] at h
        rw [h]
        exact List.mem_map_of_mem hw
      rw [addressJson_eq_null_iff.1 hnull]
      rfl
    | cons v vs =>
      rw [List.map_cons, List.cons_append, List.cons.injEq] at h
      obtain ⟨rfl, hvs⟩ := h
      obtain ⟨hx, hws⟩ := List.nodup_cons.1 hws
      obtain ⟨fields, hfields, hget⟩ := ih hws hvs
      refine ⟨(x, m.get x) :: fields, ?_, fun w hw => ?_⟩
      · rw [addItems?, addressOf?_addressJson, hfields]
        rfl
      · rcases List.mem_cons.1 hw with rfl | hw
        · rw [List.lookup_cons_self]
          rfl
        · rw [lookup_cons_of_ne (fun hwx : w = x => hx (hwx ▸ hw)), hget w hw]

/-- The list form is read back. -/
theorem ofText_values {text : String} {n : ℕ} (hvs : vs ++ List.replicate n .null = m.values)
    (h : SpacedText (.array vs) text.toList) : ofText text = .ok m := by
  obtain ⟨fields, hfields, hget⟩ := exists_addItems m (by decide) hvs
  refine (ofText_list_eq_ok_iff h).2 ⟨fields, hfields, ?_⟩
  have hall : (fun w => (fields.lookup w).join) = m.get := funext fun w => hget w (WellKnown.mem_all w)
  rw [ofFields, hall, ofFunction_get]

/-- The object form is read back. -/
theorem ofText_members {text : String} (h : SpacedText m.toJson text.toList) : ofText text = .ok m := by
  have hmem : ∀ (w : WellKnown) (v : Json),
      (w.member.toList, v) ∈ WellKnown.all.map (fun w => (w.member.toList, addressJson (m.get w))) ↔
        v = addressJson (m.get w) := by
    intro w v
    rw [List.mem_map]
    constructor
    · rintro ⟨x, -, hx⟩
      obtain ⟨hname, rfl⟩ := Prod.mk.inj hx
      rw [WellKnown.member_inj hname]
    · rintro rfl
      exact ⟨w, WellKnown.mem_all w, rfl⟩
  have hfits : Fits (WellKnown.all.map fun w => (w.member.toList, addressJson (m.get w))) := by
    refine ⟨fun w => ?_, fun w v hv => isSome_addressOf?.1 ?_⟩
    · have hnames : (WellKnown.all.map fun w => (w.member.toList, addressJson (m.get w))).map
          Prod.fst = WellKnown.all.map fun w => w.member.toList := rfl
      rw [hnames]
      cases w <;> decide
    · rw [(hmem w v).1 hv, addressOf?_addressJson]
      rfl
  obtain ⟨m', hm'⟩ := (exists_ofText_iff h).2 hfits
  suffices hsame : m' = m by rw [hm', hsame]
  refine ext_get fun w a => ?_
  rw [get_eq_some_iff h hm']
  constructor
  · rintro ⟨s, hs, ha⟩
    have hvalue := addressOf?_addressJson (m.get w)
    rw [← (hmem w _).1 hs, addressOf?, ha] at hvalue
    exact (Option.some.inj hvalue).symm
  · intro ha
    refine ⟨a.print, (hmem w _).2 ?_, Address.parse?_print a⟩
    rw [ha]
    rfl

/-- **Every form of metadata is read back**, as it is written and in any other layout. -/
theorem ofText_form (m : Metadata) (v : Json) (hv : m.Form v) :
    ofText (String.ofList v.write) = .ok m ∧
      ∀ text : String, SpacedText v text.toList → ofText text = .ok m := by
  have hread : ∀ text : String, SpacedText v text.toList → ofText text = .ok m := by
    intro text h
    cases hv with
    | object => exact ofText_members h
    | list n hvs => exact ofText_values hvs h
  refine ⟨hread _ ?_, hread⟩
  rw [String.toList_ofList]
  exact .of_valueText (Json.valueText_write v)

/-- Metadata with an IPv4-mapped address, in a field that is named for IPv4. -/
def mappedMetadata : Metadata where
  privateV4 := some (.v6 ⟨[0, 0, 0, 0, 0, 0xFFFF, 0x0A00, 1], rfl⟩)

/-- An address is read back in the family in which it was written; nulls at the end of a list are left
out, one in front of an address is not. -/
theorem ofText_form_mapped :
    ofText "[null,\"::ffff:10.0.0.1\"]" = .ok mappedMetadata ∧
      ofText ("\x7b\"public_ipv4\":null,\"private_ipv4\":\"::ffff:10.0.0.1\"," ++
        "\"public_ipv6\":null,\"private_ipv6\":null\x7d") = .ok mappedMetadata := by
  have hlist : mappedMetadata.Form (.array [.null, .string "::ffff:10.0.0.1".toList]) :=
    .list 2 (by rfl)
  exact ⟨(ofText_form mappedMetadata _ hlist).1, (ofText_form mappedMetadata _ .object).1⟩

end Forms

end Metadata

end BootEnv
