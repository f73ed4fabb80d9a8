import Almanac.Proofs.Expansion.Step
import Almanac.Proofs.Rule.Times
import Almanac.Expansion.Basic

/-! The occurrences of one period. Each of them is read off a wall second of the period, and on a
clock that places wall times in order they come in order: `pairwise_occurrences`. -/

namespace Almanac

namespace Expansion

theorem daysOfPeriod_eq (r : Rule) (date : Date) :
    daysOfPeriod r date = (List.range (periodDays r date)).map fun k =>
      Date.ofDayNumber (firstDay r date + Int.ofNat k) := by
  have hone : [date] = (List.range 1).map fun k =>
      Date.ofDayNumber (date.dayNumber + Int.ofNat k) := by
    show [date] = [Date.ofDayNumber (date.dayNumber + 0)]
    rw [Int.add_zero, Date.ofDayNumber_dayNumber]
  unfold daysOfPeriod periodDays firstDay
  cases r.frequency with
  | yearly => rfl
  | monthly => rfl
  | weekly => rfl
  | daily => exact hone
  | hourly => exact hone
  | minutely => exact hone
  | secondly => exact hone

theorem daySet_spec (r : Rule) (date : Date) :
    (daySet r date).Pairwise (fun a b => a.dayNumber < b.dayNumber) ∧
      ∀ d ∈ daySet r date, firstDay r date ≤ d.dayNumber ∧
        d.dayNumber < firstDay r date + periodDays r date := by
  constructor
  · refine List.Pairwise.filter _ ?_
    rw [daysOfPeriod_eq, List.pairwise_map]
    refine List.pairwise_lt_range.imp fun {i j} hij => ?_
    rw [Date.dayNumber_ofDayNumber, Date.dayNumber_ofDayNumber]
    exact Int.add_lt_add_left (Int.ofNat_lt.2 hij) _
  · intro d hd
    have hmem := (List.mem_filter.1 hd).1
    rw [daysOfPeriod_eq] at hmem
    obtain ⟨k, hk, rfl⟩ := List.mem_map.1 hmem
    have hlt := List.mem_range.1 hk
    rw [Date.dayNumber_ofDayNumber]
    simp only [Int.ofNat_eq_natCast]
    omega

theorem mem_timesOf {hours minutes seconds : List Int} {t : Int} :
    t ∈ timesOf hours minutes seconds ↔
      ∃ h ∈ hours, ∃ m ∈ minutes, ∃ s ∈ seconds, 3600 * h + 60 * m + s = t := by
  simp only [timesOf, List.mem_flatMap, List.mem_map]

theorem pairwise_timesOf {hours minutes seconds : List Int}
    (htimes : TimesInOrder hours minutes seconds) :
    (timesOf hours minutes seconds).Pairwise (· < ·) := by
  have hminute (h m : Int) : (seconds.map fun s => 3600 * h + 60 * m + s).Pairwise (· < ·) :=
    List.pairwise_map.2 (htimes.seconds.ascending.imp fun hlt => Int.add_lt_add_left hlt _)
  have hhour (h : Int) :
      (minutes.flatMap fun m => seconds.map fun s => 3600 * h + 60 * m + s).Pairwise (· < ·) := by
    refine List.pairwise_flatMap.2 ⟨fun m _ => hminute h m, ?_⟩
    refine htimes.minutes.ascending.imp fun {m m'} hlt t ht t' ht' => ?_
    obtain ⟨s, hs, rfl⟩ := List.mem_map.1 ht
    obtain ⟨s', hs', rfl⟩ := List.mem_map.1 ht'
    have := htimes.seconds.bounded s hs
    have := htimes.seconds.bounded s' hs'
    omega
  refine List.pairwise_flatMap.2 ⟨fun h _ => hhour h, ?_⟩
  refine htimes.hours.ascending.imp fun {h h'} hlt t ht t' ht' => ?_
  obtain ⟨m, hm, ht⟩ := List.mem_flatMap.1 ht
  obtain ⟨s, hs, rfl⟩ := List.mem_map.1 ht
  obtain ⟨m', hm', ht'⟩ := List.mem_flatMap.1 ht'
  obtain ⟨s', hs', rfl⟩ := List.mem_map.1 ht'
  have := htimes.minutes.bounded m hm
  have := htimes.minutes.bounded m' hm'
  have := htimes.seconds.bounded s hs
  have := htimes.seconds.bounded s' hs'
  omega

structure TimesOfPeriod (r : Rule) (c : Counter) (times : List Int) : Prop where
  ascending : times.Pairwise (· < ·)
  ofDay : ∀ t ∈ times, 0 ≤ t ∧ t < 86400
  inPeriod : ∀ t ∈ times, ∀ d ∈ daySet r c.date,
    periodStart r c ≤ 86400 * d.dayNumber + t ∧ 86400 * d.dayNumber + t < periodEnd r c

section Times

variable {r : Rule} {c : Counter} {hours minutes seconds : List Int}

theorem timesOfPeriod_timesOf (htimes : TimesInOrder hours minutes seconds)
    (hin : ∀ h ∈ hours, ∀ m ∈ minutes, ∀ s ∈ seconds, ∀ d ∈ daySet r c.date,
      periodStart r c ≤ 86400 * d.dayNumber + (3600 * h + 60 * m + s) ∧
        86400 * d.dayNumber + (3600 * h + 60 * m + s) < periodEnd r c) :
    TimesOfPeriod r c (timesOf hours minutes seconds) where
  ascending := pairwise_timesOf htimes
  ofDay t ht := by
    obtain ⟨h, hh, m, hm, s, hs, rfl⟩ := mem_timesOf.1 ht
    have := htimes.hours.bounded h hh
    have := htimes.minutes.bounded m hm
    have := htimes.seconds.bounded s hs
    omega
  inPeriod t ht := by
    obtain ⟨h, hh, m, hm, s, hs, rfl⟩ := mem_timesOf.1 ht
    exact hin h hh m hm s hs

theorem timesOfPeriod_ite {listed : Bool}
    (h : TimesOfPeriod r c (timesOf hours minutes seconds)) :
    TimesOfPeriod r c (if listed then timesOf hours minutes seconds else []) := by
  split
  · exact h
  · exact ⟨List.Pairwise.nil, fun t ht => absurd ht List.not_mem_nil,
      fun t ht => absurd ht List.not_mem_nil⟩

theorem timesOfPeriod_timeSet (hr : TimesInOrder r.hours r.minutes r.seconds) (hc : c.InDay) :
    TimesOfPeriod r c (timeSet r c) := by
  have hhour : IsRising 24 [Int.ofNat c.hour] := isRising_singleton (by have := hc.hour; omega)
  have hminute : IsRising 60 [Int.ofNat c.minute] :=
    isRising_singleton (by have := hc.minute; omega)
  have hsecond : IsRising 60 [Int.ofNat c.second] :=
    isRising_singleton (by have := hc.second; omega)
  have hdays := (daySet_spec r c.date).2
  unfold timeSet
  cases hf : r.frequency with
  | yearly | monthly | weekly | daily =>
    refine timesOfPeriod_timesOf hr fun h hh m hm s hs d hd => ?_
    have := hr.hours.bounded h hh
    have := hr.minutes.bounded m hm
    have := hr.seconds.bounded s hs
    have := hdays d hd
    simp only [periodEnd, periodStart, hf]
    omega
  | hourly =>
    refine timesOfPeriod_ite (timesOfPeriod_timesOf ⟨hhour, hr.minutes, hr.seconds⟩ ?_)
    intro h hh m hm s hs d hd
    have := hr.minutes.bounded m hm
    have := hr.seconds.bounded s hs
    have := hdays d hd
    obtain rfl := List.mem_singleton.1 hh
    simp only [periodEnd, periodStart, firstDay, periodDays, hf, Counter.hours,
      Int.ofNat_eq_natCast] at this ⊢
    omega
  | minutely =>
    refine timesOfPeriod_ite (timesOfPeriod_timesOf ⟨hhour, hminute, hr.seconds⟩ ?_)
    intro h hh m hm s hs d hd
    have := hr.seconds.bounded s hs
    have := hdays d hd
    obtain rfl := List.mem_singleton.1 hh
    obtain rfl := List.mem_singleton.1 hm
    simp only [periodEnd, periodStart, firstDay, periodDays, hf, Counter.hours, Counter.minutes,
      Int.ofNat_eq_natCast] at this ⊢
    omega
  | secondly =>
    refine timesOfPeriod_ite (timesOfPeriod_timesOf ⟨hhour, hminute, hsecond⟩ ?_)
    intro h hh m hm s hs d hd
    have := hdays d hd
    obtain rfl := List.mem_singleton.1 hh
    obtain rfl := List.mem_singleton.1 hm
    obtain rfl := List.mem_singleton.1 hs
    simp only [periodEnd, periodStart, firstDay, periodDays, hf, Counter.hours, Counter.minutes,
      Counter.seconds, Int.ofNat_eq_natCast] at this ⊢
    omega

end Times

/-- A later wall time is not placed earlier. -/
def PlacesInOrder (zone : Zone) : Prop :=
  ∀ (d d' : Date) (t t' m n : Int), (0 ≤ t ∧ t < 86400) → (0 ≤ t' ∧ t' < 86400) →
    86400 * d.dayNumber + t ≤ 86400 * d'.dayNumber + t' →
      instantOf? zone d t = some m → instantOf? zone d' t' = some n → m ≤ n

theorem placesInOrder_of_steady {zone : Zone} {o : Offset} (h : zone.clock = .steady o) :
    PlacesInOrder zone := by
  have hplaced (d : Date) (t : Int) :
      instantOf? zone d t = some (86400 * d.dayNumber + t - o.seconds) := by
    simp only [instantOf?, Zone.readingOf?, h, Clock.readingOf?, Clock.readings]
  intro d d' t t' m n _ _ hle hm hn
  rw [hplaced] at hm hn
  obtain rfl := Option.some.inj hm
  obtain rfl := Option.some.inj hn
  omega

theorem mem_of_element? {α : Type} {xs : List α} {i : Int} {x : α}
    (h : element? xs i = some x) : x ∈ xs := by
  unfold element? at h
  split at h
  · exact List.mem_of_getElem? h
  · exact List.mem_of_getElem? h

theorem mem_of_pairAt? {days : List Date} {times : List Int} {position : Int} {d : Date} {t : Int}
    (h : pairAt? days times position = some (d, t)) : d ∈ days ∧ t ∈ times := by
  unfold pairAt? at h
  dsimp only at h
  generalize (if 0 < position then position - 1 else position) = p at h
  split at h
  · simp at h
  · obtain ⟨day, hday, h⟩ := Option.bind_eq_some_iff.1 h
    obtain ⟨time, htime, h⟩ := Option.bind_eq_some_iff.1 h
    obtain ⟨rfl, rfl⟩ := Prod.mk.inj (Option.some.inj h)
    exact ⟨mem_of_element? hday, List.mem_of_getElem? htime⟩

theorem exists_of_mem_occurrences {r : Rule} {zone : Zone} {days : List Date} {times : List Int}
    {n : Int} (h : n ∈ occurrences r zone days times) :
    ∃ d ∈ days, ∃ t ∈ times, instantOf? zone d t = some n := by
  unfold occurrences at h
  split at h
  · obtain ⟨d, hd, hn⟩ := List.mem_flatMap.1 h
    obtain ⟨t, ht, hn⟩ := List.mem_filterMap.1 hn
    exact ⟨d, hd, t, ht, hn⟩
  · have hpicked := (List.mergeSort_perm _ _).mem_iff.1 ((eraseReps_sublist _).subset h)
    obtain ⟨p, -, hp⟩ := List.mem_filterMap.1 hpicked
    obtain ⟨⟨d, t⟩, hpair, hn⟩ := Option.bind_eq_some_iff.1 hp
    obtain ⟨hd, ht⟩ := mem_of_pairAt? hpair
    exact ⟨d, hd, t, ht, hn⟩

theorem pairwise_occurrences {r : Rule} {zone : Zone} (hzone : PlacesInOrder zone) {c : Counter}
    (hr : TimesInOrder r.hours r.minutes r.seconds) (hc : c.InDay) :
    (occurrences r zone (daySet r c.date) (timeSet r c)).Pairwise (· ≤ ·) := by
  obtain ⟨hdays, -⟩ := daySet_spec r c.date
  have htimes := timesOfPeriod_timeSet hr hc
  unfold occurrences
  split
  · -- the days go up, and the times of each day do
    refine List.pairwise_flatMap.2 ⟨fun d _ => ?_, ?_⟩
    · refine List.pairwise_filterMap.2 (htimes.ascending.imp_of_mem
      fun {t t'} ht ht' hlt m hm n hn => ?_)
      exact hzone d d t t' m n (htimes.ofDay t ht) (htimes.ofDay t' ht') (by omega) hm hn
    · refine hdays.imp fun {d d'} hlt m hm n hn => ?_
      obtain ⟨t, ht, hm⟩ := List.mem_filterMap.1 hm
      obtain ⟨t', ht', hn⟩ := List.mem_filterMap.1 hn
      have hbefore := htimes.ofDay t ht
      have hafter := htimes.ofDay t' ht'
      exact hzone d d' t t' m n hbefore hafter (by omega) hm hn
  · exact (pairwise_mergeSort_le _).sublist (eraseReps_sublist _)

end Expansion

end Almanac
