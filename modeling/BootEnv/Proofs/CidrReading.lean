import BootEnv.Cidr
import BootEnv.Proofs.AddressReading

/-!
# Interface addresses read back from their text

The text of an address and the decimal number of its network bits, with a slash between them, is read
as what was written, as long as the number is at most the width of the address. What is read otherwise
(a plus sign, leading zeros, another spelling of the address) is read again from its canonical text.

* `Cidr.parse?_text`: **a canonical text is read as what it writes, or refused for its number.**
* `Cidr.eq_of_parse?`: what a text that is read consists of.
* `Cidr.count_slash`: there is one slash in it.
* `Cidr.reads_back`: **reading undoes writing**, and what is read can be written and read again.
-/

namespace BootEnv

namespace Cidr

open Text

/-- **A canonical text is read as what it writes**, or refused when the number is too great. -/
theorem parse?_text (a : Address) (n : ℕ) :
    parse? (String.ofList (a.print ++ '/' :: decimal n)) =
      if h : n ≤ a.width then some ⟨a, n, h⟩ else none := by
  have hslash : '/' ∉ a.print := fun h => absurd (Address.mem_print h) (by decide)
  unfold parse?
  rw [String.toList_ofList, cutAt?_append_cons hslash]
  simp only [Option.bind_eq_bind, Option.bind_some, Address.parse?_print, Numeral.parse?_decimal]

theorem eq_of_parse? {text : String} {c : Cidr} (h : parse? text = some c) :
    ∃ front back, text.toList = front ++ '/' :: back ∧ '/' ∉ front ∧
      Address.parse? front = some c.address ∧ Numeral.parse? 10 back = some c.bits := by
  unfold parse? at h
  obtain ⟨⟨front, back⟩, hcut, h⟩ := Option.bind_eq_some_iff.1 h
  obtain ⟨a, ha, h⟩ := Option.bind_eq_some_iff.1 h
  obtain ⟨n, hn, h⟩ := Option.bind_eq_some_iff.1 h
  obtain ⟨htext, hslash⟩ := eq_of_cutAt? hcut
  split at h
  · obtain rfl := Option.some.inj h
    exact ⟨front, back, htext, hslash, ha, hn⟩
  · exact absurd h (by simp)

/-- There is one slash in a text that is read: the number behind the first has none. -/
theorem count_slash {text : String} {c : Cidr} (h : parse? text = some c) :
    text.toList.count '/' = 1 := by
  obtain ⟨front, back, htext, hfront, -, hback⟩ := eq_of_parse? h
  have hnumeral : Numeral.parse? 10 back ≠ none := by simp [hback]
  have hnot : '/' ∉ back := fun hmem => absurd (Numeral.mem_of_parse? hnumeral hmem) (by decide)
  rw [htext, List.count_append, List.count_cons_self, List.count_eq_zero_of_not_mem hfront,
    List.count_eq_zero_of_not_mem hnot]

/-- **Reading undoes writing.** Every address with a number of bits that is not too great is read back
from its text, in its family, and one with a greater number is refused. A text that is read has one
slash, its number fits the family of its address, and what is read can be written and read again. -/
theorem reads_back :
    (∀ (a : Address) (n : ℕ), parse? (String.ofList (a.print ++ '/' :: decimal n)) =
      if h : n ≤ a.width then some ⟨a, n, h⟩ else none) ∧
    ∀ (text : String) (c : Cidr), parse? text = some c →
      text.toList.count '/' = 1 ∧
      (c.bits ≤ match c.address.family with | .v4 => 32 | .v6 => 128) ∧
      parse? c.print = some c := by
  refine ⟨parse?_text, fun text c h => ⟨count_slash h, ?_, ?_⟩⟩
  · obtain ⟨address, bits, hbits⟩ := c
    cases address <;> exact hbits
  · unfold print
    rw [parse?_text, dif_pos c.bits_le]

/-- A spelling that is not canonical is read, and its canonical one after it. -/
theorem reads_back_mapped :
    ∃ c, parse? "0:0:0:0:0:FFFF:a00:1/+024" = some c ∧ c.print = "::ffff:10.0.0.1/24" ∧
      "0:0:0:0:0:FFFF:a00:1/+024".toList.count '/' = 1 ∧ parse? "::ffff:10.0.0.1/24" = some c := by
  have hsome : (parse? "0:0:0:0:0:FFFF:a00:1/+024").isSome = true := by decide +kernel
  obtain ⟨c, hc⟩ := Option.isSome_iff_exists.1 hsome
  have hprint : (parse? "0:0:0:0:0:FFFF:a00:1/+024").map print = some "::ffff:10.0.0.1/24" := by
    decide +kernel
  rw [hc, Option.map_some, Option.some.injEq] at hprint
  obtain ⟨hcount, -, hagain⟩ := reads_back.2 _ c hc
  exact ⟨c, hc, hprint, hcount, hprint ▸ hagain⟩

end Cidr

end BootEnv
