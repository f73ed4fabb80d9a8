import Almanac.Text.Number
import Mathlib.Data.Nat.Digits.Defs

/-! Decimal digits. Reading the digits of a number gives the number back, however many zeros stand
in front of them; and digits that are read are that number, written as wide as they are. -/

namespace Almanac.Text

theorem digitsValue_writePadded (width n : Nat) : digitsValue (writePadded width n) = n := by
  have hvalue (cs : List Char) : digitsValue cs = Nat.ofDigitChars 10 cs 0 := rfl
  rw [hvalue, writePadded, Nat.ofDigitChars_append, Nat.ofDigitChars_replicate_zero, Nat.mul_zero,
    writeNat, Nat.ofDigitChars_ten_toDigits]

theorem isDigit_of_mem_writePadded {width n : Nat} {c : Char} (h : c ∈ writePadded width n) :
    c.isDigit = true := by
  rcases List.mem_append.1 h with h | h
  · rw [List.eq_of_mem_replicate h]
    rfl
  · exact Nat.isDigit_of_mem_toDigits (by decide) (by decide) h

theorem length_writePadded {width n : Nat} (hwidth : 0 < width) (h : n < 10 ^ width) :
    (writePadded width n).length = width := by
  have hle : (writeNat n).length ≤ width := (Nat.length_toDigits_le_iff (by decide) hwidth).2 h
  rw [writePadded, List.length_append, List.length_replicate]
  omega

theorem toNat_of_isDigit {c : Char} (h : c.isDigit = true) : 48 ≤ c.toNat ∧ c.toNat ≤ 57 :=
  Char.isDigit_iff_toNat.1 h

theorem ofNat_digitValue {c : Char} (h : c.isDigit = true) :
    Char.ofNat (48 + digitValue c) = c := by
  have hc := toNat_of_isDigit h
  have hcode : 48 + digitValue c = c.toNat := by
    unfold digitValue
    omega
  rw [hcode, Char.ofNat_toNat]

theorem digitsValue_eq_ofDigits (cs : List Char) :
    digitsValue cs = Nat.ofDigits 10 (cs.reverse.map digitValue) := by
  rw [digitsValue, Nat.ofDigits_eq_foldr, List.foldr_map, List.foldr_reverse]
  simp only [Nat.cast_id, Nat.add_comm]

section Digits

variable {cs : List Char} (h : ∀ c ∈ cs, c.isDigit = true)

include h

theorem digitValue_lt : ∀ n ∈ cs.reverse.map digitValue, n < 10 := by
  refine List.forall_mem_map.2 fun c hc => ?_
  have hcode := toNat_of_isDigit (h c (List.mem_reverse.1 hc))
  unfold digitValue
  omega

theorem map_ofNat_digitValue :
    ((cs.reverse.map digitValue).map fun n => Char.ofNat (48 + n)) = cs.reverse := by
  rw [List.map_map]
  exact (List.map_congr_left fun c hc => ofNat_digitValue (h c (List.mem_reverse.1 hc))).trans
    (List.map_id' _)

theorem digitsValue_lt : digitsValue cs < 10 ^ cs.length := by
  have hlt := Nat.ofDigits_lt_base_pow_length (by decide) (digitValue_lt h)
  rwa [← digitsValue_eq_ofDigits, List.length_map, List.length_reverse] at hlt

theorem eq_of_digitsValue_eq {ds : List Char} (hds : ∀ d ∈ ds, d.isDigit = true)
    (hlength : cs.length = ds.length) (hvalue : digitsValue cs = digitsValue ds) : cs = ds := by
  rw [digitsValue_eq_ofDigits, digitsValue_eq_ofDigits] at hvalue
  have hvalues : cs.reverse.map digitValue = ds.reverse.map digitValue :=
    Nat.ofDigits_inj_of_len_eq (by decide) (by simpa using hlength) (digitValue_lt h)
      (digitValue_lt hds) hvalue
  rw [← List.reverse_inj, ← map_ofNat_digitValue h, hvalues, map_ofNat_digitValue hds]

theorem writePadded_digitsValue (hne : cs ≠ []) :
    writePadded cs.length (digitsValue cs) = cs := by
  have hlength : (writePadded cs.length (digitsValue cs)).length = cs.length :=
    length_writePadded (List.length_pos_iff.2 hne) (digitsValue_lt h)
  exact (eq_of_digitsValue_eq h (fun _ => isDigit_of_mem_writePadded) hlength.symm
    (digitsValue_writePadded _ _).symm).symm

end Digits

theorem writeNat_ne_nil (n : Nat) : writeNat n ≠ [] :=
  Nat.toDigits_ne_nil

theorem writePadded_ne_nil (width n : Nat) : writePadded width n ≠ [] :=
  List.append_ne_nil_of_right_ne_nil _ (writeNat_ne_nil n)

theorem readDigits?_writePadded (width n : Nat) : readDigits? (writePadded width n) = some n := by
  have hdigits : (writePadded width n).all Char.isDigit = true :=
    List.all_eq_true.2 fun _ => isDigit_of_mem_writePadded
  rw [readDigits?, if_pos ⟨writePadded_ne_nil width n, hdigits⟩, digitsValue_writePadded]

theorem writePadded_zero (n : Nat) : writePadded 0 n = writeNat n := by
  rw [writePadded, Nat.zero_sub]
  rfl

theorem isDigit_of_mem_writeNat {n : Nat} {c : Char} (h : c ∈ writeNat n) : c.isDigit = true :=
  isDigit_of_mem_writePadded (writePadded_zero n ▸ h)

theorem readDigits?_writeNat (n : Nat) : readDigits? (writeNat n) = some n := by
  rw [← writePadded_zero, readDigits?_writePadded]

theorem head?_writeNat {n : Nat} (h : 1 < (writeNat n).length) :
    (writeNat n).head? ≠ some '0' := by
  intro hzero
  obtain ⟨ds, hds⟩ := List.head?_eq_some_iff.1 hzero
  have hdigits : ∀ d ∈ ds, d.isDigit = true := fun d hd =>
    isDigit_of_mem_writeNat (hds ▸ List.mem_cons_of_mem _ hd)
  have hlength : (writeNat n).length = ds.length + 1 := by rw [hds, List.length_cons]
  have hvalue : digitsValue ds = n := by
    have hwhole := digitsValue_writePadded 0 n
    rw [writePadded_zero, hds] at hwhole
    exact hwhole
  have hlt : n < 10 ^ ds.length := hvalue ▸ digitsValue_lt hdigits
  have hle : (writeNat n).length ≤ ds.length :=
    (Nat.length_toDigits_le_iff (by decide) (by omega)).2 hlt
  omega

theorem readSigned?_of_digits {cs : List Char} (h : ∀ c ∈ cs, c.isDigit = true) :
    readSigned? cs = (readDigits? cs).map Int.ofNat := by
  unfold readSigned?
  split
  · exact absurd (h '+' List.mem_cons_self) (by decide)
  · exact absurd (h '-' List.mem_cons_self) (by decide)
  · rfl

theorem readSigned?_writeInt (n : Int) : readSigned? (writeInt n) = some n := by
  unfold writeInt
  split
  · next hnegative =>
    have hminus (ds : List Char) :
        readSigned? ('-' :: ds) = (readDigits? ds).map fun n => -Int.ofNat n := rfl
    rw [hminus, readDigits?_writeNat, Option.map_some, Int.ofNat_eq_natCast]
    exact congrArg some (by omega)
  · next hpositive =>
    rw [readSigned?_of_digits fun d => isDigit_of_mem_writeNat, readDigits?_writeNat,
      Option.map_some, Int.ofNat_eq_natCast]
    exact congrArg some (by omega)

theorem exists_cons_of_readDigits? {cs : List Char} {n : Nat} (h : readDigits? cs = some n) :
    ∃ c others, cs = c :: others ∧ c.isDigit = true := by
  obtain ⟨⟨hne, hdigits⟩, -⟩ := Option.ite_none_right_eq_some.1 h
  obtain ⟨c, others, rfl⟩ := List.exists_cons_of_ne_nil hne
  exact ⟨c, others, rfl, List.all_eq_true.1 hdigits c List.mem_cons_self⟩

theorem exists_cons_of_readSigned? {cs : List Char} {n : Int} (h : readSigned? cs = some n) :
    ∃ c others, cs = c :: others ∧ c.toNat < 58 := by
  unfold readSigned? at h
  split at h
  · exact ⟨_, _, rfl, by decide⟩
  · exact ⟨_, _, rfl, by decide⟩
  · obtain ⟨m, hm, -⟩ := Option.map_eq_some_iff.1 h
    obtain ⟨c, others, rfl, hc⟩ := exists_cons_of_readDigits? hm
    exact ⟨c, others, rfl, Nat.lt_succ_of_le (toNat_of_isDigit hc).2⟩

theorem writePadded_injective (width : Nat) : Function.Injective (writePadded width) := by
  intro m n h
  rw [← digitsValue_writePadded width m, h, digitsValue_writePadded]

end Almanac.Text
