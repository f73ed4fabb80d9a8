import Almanac.Proofs.Text.Number

/-! Order of texts. Of two numbers written with as many digits the smaller comes first, and texts of
one length that differ keep their order whatever follows them. -/

namespace Almanac.Text

theorem digitsValue_cons (c : Char) (cs : List Char) :
    digitsValue (c :: cs) = digitValue c * 10 ^ cs.length + digitsValue cs := by
  rw [digitsValue_eq_ofDigits, digitsValue_eq_ofDigits, List.reverse_cons, List.map_append,
    Nat.ofDigits_append, List.map_singleton, Nat.ofDigits_singleton, List.length_map,
    List.length_reverse, Nat.mul_comm, Nat.add_comm]

theorem lt_of_digitValue_lt {c d : Char} (h : digitValue c < digitValue d) : c < d := by
  have hcode : c.toNat < d.toNat := by
    unfold digitValue at h
    omega
  exact hcode

theorem lt_of_digitsValue_lt {cs ds : List Char} (hcs : ∀ c ∈ cs, c.isDigit = true)
    (hds : ∀ d ∈ ds, d.isDigit = true) (hlength : cs.length = ds.length)
    (h : digitsValue cs < digitsValue ds) : cs < ds := by
  induction cs generalizing ds with
  | nil =>
    obtain rfl := List.length_eq_zero_iff.1 hlength.symm
    exact absurd h (Nat.lt_irrefl _)
  | cons c cs ih =>
    obtain ⟨d, ds, rfl⟩ := List.exists_cons_of_length_eq_add_one hlength.symm
    obtain ⟨hc, hcs⟩ := List.forall_mem_cons.1 hcs
    obtain ⟨hd, hds⟩ := List.forall_mem_cons.1 hds
    have hsame : cs.length = ds.length := Nat.succ.inj hlength
    have hlast : digitsValue cs < 10 ^ ds.length := hsame ▸ digitsValue_lt hcs
    have hlast' : digitsValue ds < 10 ^ ds.length := digitsValue_lt hds
    rw [digitsValue_cons, digitsValue_cons, hsame] at h
    rw [List.cons_lt_cons_iff]
    rcases Nat.lt_trichotomy (digitValue c) (digitValue d) with hlt | heq | hgt
    · exact Or.inl (lt_of_digitValue_lt hlt)
    · refine Or.inr ⟨?_, ih hcs hds hsame ?_⟩
      · rw [← ofNat_digitValue hc, ← ofNat_digitValue hd, heq]
      · rw [heq] at h
        omega
    · -- a higher first digit outweighs all the digits behind it
      have hstep : (digitValue d + 1) * 10 ^ ds.length ≤ digitValue c * 10 ^ ds.length :=
        Nat.mul_le_mul_right _ hgt
      rw [Nat.succ_mul] at hstep
      omega

theorem writePadded_lt {width m n : Nat} (hwidth : 0 < width) (hn : n < 10 ^ width) (h : m < n) :
    writePadded width m < writePadded width n := by
  have hm : m < 10 ^ width := Nat.lt_trans h hn
  refine lt_of_digitsValue_lt (fun _ => isDigit_of_mem_writePadded)
    (fun _ => isDigit_of_mem_writePadded) ?_ ?_
  · rw [length_writePadded hwidth hm, length_writePadded hwidth hn]
  · rwa [digitsValue_writePadded, digitsValue_writePadded]

theorem append_lt_append {cs ds : List Char} (hlength : cs.length = ds.length) (h : cs < ds)
    (cs' ds' : List Char) : cs ++ cs' < ds ++ ds' := by
  induction cs generalizing ds with
  | nil =>
    obtain rfl := List.length_eq_zero_iff.1 hlength.symm
    exact absurd h (List.lt_irrefl [])
  | cons c cs ih =>
    obtain ⟨d, ds, rfl⟩ := List.exists_cons_of_length_eq_add_one hlength.symm
    rw [List.cons_lt_cons_iff] at h
    rw [List.cons_append, List.cons_append, List.cons_lt_cons_iff]
    exact h.imp_right fun hrest => ⟨hrest.1, ih (Nat.succ.inj hlength) hrest.2⟩

end Almanac.Text
