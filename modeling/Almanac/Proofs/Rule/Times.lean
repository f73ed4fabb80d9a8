import Almanac.Proofs.Ascending
import Almanac.Proofs.Except
import Almanac.Series.Contribution

/-! The times of day that a rule lists. They are read in ascending order and within the day, and
what a rule leaves open is filled with a time of day: `timesInOrder_of_readRule`. -/

namespace Almanac

structure TimesInOrder (hours minutes seconds : List Int) : Prop where
  hours : IsRising 24 hours
  minutes : IsRising 60 minutes
  seconds : IsRising 60 seconds

namespace RuleParts

variable {pairs : List (RuleKey × List Char)} {p : RuleParts} {limit : Int}

theorem bounds_of_readUnsignedWithin {low high n : Int} {cs : List Char}
    (h : readUnsignedWithin low high cs = some n) : low ≤ n ∧ n ≤ high :=
  of_decide_eq_true (Option.filter_eq_some_iff.1 h).2

theorem exists_of_readAll? {read : List Char → Option Int} {items : List (List Char)}
    {ns : List Int} (h : readAll? read items = some ns) :
    ∀ n ∈ ns, ∃ item ∈ items, read item = some n := by
  induction items generalizing ns with
  | nil =>
    obtain rfl := Option.some.inj h
    exact fun n hn => absurd hn List.not_mem_nil
  | cons item items ih =>
    obtain ⟨n, hn, h⟩ := Option.bind_eq_some_iff.1 h
    obtain ⟨rest, hrest, h⟩ := Option.bind_eq_some_iff.1 h
    obtain rfl := Option.some.inj h
    refine List.forall_mem_cons.2 ⟨⟨item, List.mem_cons_self, hn⟩, fun m hm => ?_⟩
    obtain ⟨other, hother, hread⟩ := ih hrest m hm
    exact ⟨other, List.mem_cons_of_mem item hother, hread⟩

theorem isRising_ascending {ns : List Int} (h : ∀ n ∈ ns, 0 ≤ n ∧ n < limit) :
    IsRising limit (ascending ns) where
  ascending := pairwise_eraseReps (pairwise_mergeSort_le ns)
  bounded n hn := h n ((List.mergeSort_perm _ _).mem_iff.1 ((eraseReps_sublist _).subset hn))

theorem isRising_of_readList (part : ListPart) {ns : List Int}
    (hlimit : ∀ cs n, readNumber? part cs = some n → 0 ≤ n ∧ n < limit)
    (h : readList pairs part = .ok ns) : IsRising limit ns := by
  have hnil : IsRising limit [] := ⟨List.Pairwise.nil, fun n hn => absurd hn List.not_mem_nil⟩
  unfold readList at h
  split at h
  · exact Except.ok.inj h ▸ hnil
  · exact Except.ok.inj h ▸ hnil
  · split at h
    · next ms hms =>
      rw [← Except.ok.inj h]
      refine isRising_ascending fun n hn => ?_
      obtain ⟨item, -, hread⟩ := exists_of_readAll? hms n hn
      exact hlimit item n hread
    · simp at h

theorem timesInOrder_of_ofPairs (h : ofPairs pairs = .ok p) :
    TimesInOrder p.hours p.minutes p.seconds := by
  -- of all parts only the last three matter
  unfold ofPairs at h
  obtain ⟨frequency, -, h⟩ := bind_eq_ok_iff.1 h
  obtain ⟨interval, -, h⟩ := bind_eq_ok_iff.1 h
  obtain ⟨count?, -, h⟩ := bind_eq_ok_iff.1 h
  obtain ⟨ending?, -, h⟩ := bind_eq_ok_iff.1 h
  obtain ⟨weekStart, -, h⟩ := bind_eq_ok_iff.1 h
  obtain ⟨setPositions, -, h⟩ := bind_eq_ok_iff.1 h
  obtain ⟨months, -, h⟩ := bind_eq_ok_iff.1 h
  obtain ⟨monthDays, -, h⟩ := bind_eq_ok_iff.1 h
  obtain ⟨yearDays, -, h⟩ := bind_eq_ok_iff.1 h
  obtain ⟨weekNumbers, -, h⟩ := bind_eq_ok_iff.1 h
  obtain ⟨weekdays, -, h⟩ := bind_eq_ok_iff.1 h
  obtain ⟨hours, hhours, h⟩ := bind_eq_ok_iff.1 h
  obtain ⟨minutes, hminutes, h⟩ := bind_eq_ok_iff.1 h
  obtain ⟨seconds, hseconds, h⟩ := bind_eq_ok_iff.1 h
  rw [← Except.ok.inj h]
  have hsixty (cs : List Char) (n : Int) (hn : readUnsignedWithin 0 59 cs = some n) :
      0 ≤ n ∧ n < 60 := by
    have := bounds_of_readUnsignedWithin hn
    omega
  refine ⟨isRising_of_readList .hours (fun cs n hn => ?_) hhours,
    isRising_of_readList .minutes hsixty hminutes, isRising_of_readList .seconds hsixty hseconds⟩
  have := bounds_of_readUnsignedWithin hn
  omega

theorem timesInOrder_of_parse {text : String} (h : parse text = .ok p) :
    TimesInOrder p.hours p.minutes p.seconds := by
  unfold parse at h
  split at h
  · simp at h
  · split at h
    · simp at h
    · exact timesInOrder_of_ofPairs h

theorem isRising_orElse {ns : List Int} {n : Nat} (fill : Bool) (h : IsRising limit ns)
    (hn : (n : Int) < limit) : IsRising limit (orElse ns fill n) := by
  unfold orElse
  split
  · exact isRising_singleton hn
  · exact h

theorem timesInOrder_complete (h : TimesInOrder p.hours p.minutes p.seconds) (start : DateTime)
    (until? : Option Int) :
    let r := p.complete start until?
    TimesInOrder r.hours r.minutes r.seconds where
  hours := isRising_orElse _ h.hours (by have := start.time.hour_lt; omega)
  minutes := isRising_orElse _ h.minutes (by have := start.time.minute_lt; omega)
  seconds := isRising_orElse _ h.seconds (by have := start.time.second_lt; omega)

end RuleParts

namespace Contribution

variable {f : Frame} {r : Rule}

theorem timesInOrder_of_readRule {text : String} (h : readRule f text = .ok r) :
    TimesInOrder r.hours r.minutes r.seconds := by
  unfold readRule at h
  split at h
  · simp at h
  · simp at h
  · next parts hparts =>
    dsimp only at h
    split at h
    · simp at h
    · split at h
      · simp at h
      · rw [← Except.ok.inj h]
        exact RuleParts.timesInOrder_complete (RuleParts.timesInOrder_of_parse hparts) _ _

theorem timesInOrder_of_ofRule {line : ContentLine} {number : Nat}
    (h : ofRule f line number = .ok r) : TimesInOrder r.hours r.minutes r.seconds := by
  unfold ofRule at h
  split at h
  · next q hq => exact timesInOrder_of_readRule (Except.ok.inj h ▸ hq)
  · simp at h
  · simp at h

theorem timesInOrder_of_ofLine {resolver : Resolver} {text : String} {number : Nat}
    {c : Contribution} (h : (ofLine f resolver text number).1 = .ok c)
    (hc : c = rule r ∨ c = exclusionRule r) : TimesInOrder r.hours r.minutes r.seconds := by
  have hmap {α : Type} {x : Except LineFailure α} {g : α → Contribution}
      (hx : x.map g = .ok c) : ∃ a, x = .ok a ∧ g a = c := by
    cases x with
    | error e => simp [Except.map] at hx
    | ok a => exact ⟨a, rfl, Except.ok.inj hx⟩
  unfold ofLine at h
  split at h
  · simp at h
  · split at h
    · simp at h
    · rw [← Except.ok.inj h] at hc
      simp at hc
    · obtain ⟨q, hq, rfl⟩ := hmap h
      obtain rfl : q = r := by simpa using hc
      exact timesInOrder_of_ofRule hq
    · obtain ⟨q, hq, rfl⟩ := hmap h
      obtain rfl : q = r := by simpa using hc
      exact timesInOrder_of_ofRule hq
    · obtain ⟨ds, -, rfl⟩ := hmap h
      simp at hc
    · obtain ⟨ds, -, rfl⟩ := hmap h
      simp at hc

end Contribution

end Almanac
