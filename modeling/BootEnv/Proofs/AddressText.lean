import BootEnv.Address.Printer
import BootEnv.EnvFile
import BootEnv.Proofs.Digits

/-!
# The text of an address

An address is written with digits, full stops and colons, and full stops stand only where an IPv4
address is written. None of these characters ends a line and there is at least one, so the text is a
value that a file can hold.

* `V4.mem_print`, `V6.mem_print`: the characters of a text.
* `V6.mem_print_of_not_mapped`: **an IPv6 address that is not IPv4-mapped has no full stop.**
* `isValue_print`: **the text fits on a line.**
* `print_ne_nil`: **and it is not empty.**
-/

namespace BootEnv

variable {c : Char}

theorem isDigit_of_mem_hex {n : ℕ} (h : c ∈ Nat.toDigits 16 n) : isDigit 16 c = true :=
  isDigit_of_mem_toDigits (by decide) (by decide) h

theorem V4.mem_print {v : V4} (h : c ∈ v.print) : isDigit 10 c = true ∨ c = '.' := by
  have hdec : ∀ n, c ∈ decimal n → isDigit 10 c = true := fun n hn =>
    isDigit_of_mem_toDigits (by decide) (by decide) hn
  unfold V4.print at h
  simp only [List.mem_append, List.mem_cons] at h
  rcases h with ((h | rfl | h) | rfl | h) | rfl | h
  · exact .inl (hdec _ h)
  · exact .inr rfl
  · exact .inl (hdec _ h)
  · exact .inr rfl
  · exact .inl (hdec _ h)
  · exact .inr rfl
  · exact .inl (hdec _ h)

namespace V6

theorem mem_printGroups {gs : List UInt16} (h : c ∈ printGroups gs) :
    isDigit 16 c = true ∨ c = ':' := by
  fun_induction printGroups gs with
  | case1 => simp at h
  | case2 g => exact .inl (isDigit_of_mem_hex h)
  | case3 g gs _ ih =>
    rcases List.mem_append.1 h with h | h
    · exact .inl (isDigit_of_mem_hex h)
    · rcases List.mem_cons.1 h with rfl | h
      · exact .inr rfl
      · exact ih h

theorem printGroups_ne_nil {gs : List UInt16} (h : gs ≠ []) : printGroups gs ≠ [] := by
  fun_cases printGroups gs with
  | case1 => exact absurd rfl h
  | case2 g => exact Nat.toDigits_ne_nil
  | case3 g gs _ => simp

/-- **An address that is not IPv4-mapped is written without a full stop.** -/
theorem mem_print_of_not_mapped {v : V6} (hv : v.mapped? = none) (h : c ∈ v.print) :
    isDigit 16 c = true ∨ c = ':' := by
  unfold V6.print at h
  rw [hv] at h
  dsimp only at h
  split at h
  · exact mem_printGroups h
  · simp only [List.mem_append, List.mem_cons] at h
    rcases h with h | rfl | rfl | h
    · exact mem_printGroups h
    · exact .inr rfl
    · exact .inr rfl
    · exact mem_printGroups h

theorem print_of_mapped? {v : V6} {w : V4} (h : v.mapped? = some w) :
    v.print = "::ffff:".toList ++ w.print := by
  unfold V6.print
  rw [h]

theorem mem_print {v : V6} (h : c ∈ v.print) : isDigit 16 c = true ∨ c = '.' ∨ c = ':' := by
  cases hv : v.mapped? with
  | none => exact (mem_print_of_not_mapped hv h).imp_right .inr
  | some w =>
    have hfront : "::ffff:".toList.all (fun c => isDigit 16 c || c == ':') = true := by decide
    rw [print_of_mapped? hv, List.mem_append] at h
    rcases h with h | h
    · have hc := List.all_eq_true.1 hfront c h
      rw [Bool.or_eq_true, beq_iff_eq] at hc
      exact hc.imp_right .inr
    · exact (V4.mem_print h).imp (isDigit_mono (by decide)) .inl

theorem print_ne_nil (v : V6) : v.print ≠ [] := by
  have hgroups : v.groups ≠ [] := by
    intro hnil
    have hlen := v.length_groups
    rw [hnil] at hlen
    exact absurd hlen (by decide)
  unfold V6.print
  split
  · simp
  · dsimp only
    split
    · exact printGroups_ne_nil hgroups
    · simp

end V6

namespace Address

theorem mem_print {a : Address} (h : c ∈ a.print) : isDigit 16 c = true ∨ c = '.' ∨ c = ':' := by
  cases a with
  | v4 v => exact (V4.mem_print h).imp (isDigit_mono (by decide)) .inl
  | v6 v => exact V6.mem_print h

/-- **The text of an address fits on a line.** -/
theorem isValue_print (a : Address) : isValue a.print = true := by
  have hnewline : '\n' ∉ a.print := fun h => absurd (mem_print h) (by decide)
  have hreturn : '\r' ∉ a.print := fun h => absurd (mem_print h) (by decide)
  have hnul : '\x00' ∉ a.print := fun h => absurd (mem_print h) (by decide)
  simp [isValue, hnewline, hreturn, hnul]

/-- **An address has a text.** -/
theorem print_ne_nil (a : Address) : a.print ≠ [] := by
  cases a with
  | v4 v => simp [Address.print, V4.print]
  | v6 v => exact v.print_ne_nil

end Address

end BootEnv
