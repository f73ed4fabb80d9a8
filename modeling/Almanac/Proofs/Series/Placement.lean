import Almanac.Proofs.Series.Endings
import Almanac.Proofs.Series.ListedDays
import Mathlib.Data.List.Forall2

/-! Lists of dates, item by item and line by line. Where an item stands on the timeline is a matter
of its text and of one zone, and a line adds all of its items or none of them:
`compile_dates_line`. -/

namespace Almanac

namespace ListedDate

variable {item : List Char} {valueType zoneId zoneId' : Option String} {t : DateTime}

theorem zoneId_of_readDateTimeItem (h : readDateTimeItem item zoneId = .ok (clock t zoneId')) :
    zoneId' = zoneId := by
  obtain ⟨⟨dateTime, isUtc⟩, -, hitem⟩ := bind_eq_ok_iff.1 h
  cases isUtc with
  | true => exact nomatch Except.ok.inj hitem
  | false => exact (ListedDate.clock.inj (Except.ok.inj hitem)).2.symm

theorem zoneId_of_readPeriodItem (h : readPeriodItem item zoneId = .ok (clock t zoneId')) :
    zoneId' = zoneId := by
  unfold readPeriodItem at h
  split at h
  · exact nomatch h
  · split at h
    · split at h
      · next hstart => exact zoneId_of_readDateTimeItem (hstart.trans h)
      · exact nomatch h
    · exact nomatch h

theorem zoneId_of_readItem (h : readItem item valueType zoneId = .ok (clock t zoneId')) :
    zoneId' = zoneId := by
  have hday (d : Date) : day d ≠ clock t zoneId' := nofun
  unfold readItem at h
  split at h
  · obtain ⟨d, -, hd⟩ := map_eq_ok_iff.1 h
    exact absurd hd (hday d)
  · split at h
    · exact zoneId_of_readPeriodItem h
    · split at h
      · exact zoneId_of_readDateTimeItem h
      · obtain ⟨d, -, hd⟩ := map_eq_ok_iff.1 h
        exact absurd hd (hday d)

end ListedDate

namespace Zone

theorem place_eq_error_iff {z : Zone} {t : DateTime} {e : ZoneError} :
    z.place t = .error e ↔
      (z.readings t = [] ∧ z.readings (t.addSeconds 3600) = []) ∧ e = .skippedTime t z.name := by
  unfold place
  cases z.readings t with
  | cons n ns => simp
  | nil =>
    cases z.readings (t.addSeconds 3600) with
    | cons n ns => simp
    | nil => simp [eq_comm]

end Zone

namespace ContentLine

variable (l : ContentLine) (governing : Zone)

def clockZone : Except ZoneError Zone :=
  match l.zoneId? with
  | none => .ok governing
  | some identifier => Zone.resolve identifier

def readItem (item : List Char) : Except LineFault ListedDate :=
  ListedDate.readItem item l.itemForm? l.zoneId?

/-- The item is a wall clock without a mark for UTC. -/
def IsClock (item : List Char) (t : DateTime) : Prop :=
  l.readItem item = .ok (.clock t l.zoneId?)

/-- Where an item of the line stands on the timeline. -/
inductive Places : List Char → PlacedDate → Prop
  | day {item : List Char} {d : Date} (h : l.readItem item = .ok (.day d)) :
    Places item ⟨(DateTime.midnight d).toSeconds, true⟩
  | utc {item : List Char} {t : DateTime} (h : l.readItem item = .ok (.utc t)) :
    Places item ⟨t.toSeconds, false⟩
  | clock {item : List Char} {t : DateTime} {zone : Zone} {i : Instant} (h : l.IsClock item t)
    (hzone : l.clockZone governing = .ok zone) (hshown : zone.place t = .ok i) :
    Places item ⟨i.second, false⟩

/-- Why an item of the line stands nowhere. -/
inductive Unplaced : List Char → ZoneError → Prop
  | unknownZone {item : List Char} {t : DateTime} {identifier : String} (h : l.IsClock item t)
    (hzone : l.zoneId? = some identifier) (hunknown : ∀ zone, Zone.resolve identifier ≠ .ok zone) :
    Unplaced item (.unknownZone identifier)
  | skippedTime {item : List Char} {t : DateTime} {zone : Zone} (h : l.IsClock item t)
    (hzone : l.clockZone governing = .ok zone)
    (hskipped : zone.readings t = [] ∧ zone.readings (t.addSeconds 3600) = []) :
    Unplaced item (.skippedTime t zone.name)

/-- Every wall clock that the line lists has a place in the zone of the line. -/
def ClocksShown : Prop :=
  ∀ item ∈ l.items, ∀ t, l.IsClock item t →
    ∃ zone i, l.clockZone governing = .ok zone ∧ zone.place t = .ok i

def Lists (make : List PlacedDate → Contribution) : Prop :=
  (l.property? = some .rdate ∧ make = .dates) ∨
    (l.property? = some .exdate ∧ make = .exclusionDates)

def refusal (number : Nat) (e : ZoneError) : LineError where
  fault := Contribution.faultOf e
  line := number
  column := l.valueColumn
  context := some e.message

variable {l governing} {item : List Char}

theorem clockZone_eq_error_iff {e : ZoneError} :
    l.clockZone governing = .error e ↔
      ∃ identifier, l.zoneId? = some identifier ∧
        (∀ zone, Zone.resolve identifier ≠ .ok zone) ∧ e = .unknownZone identifier := by
  unfold clockZone
  cases l.zoneId? with
  | none => simp
  | some identifier => simp [Zone.resolve_eq_error_iff]

theorem places_or_unplaced {d : ListedDate} (h : l.readItem item = .ok d) :
    (∃ p, l.Places governing item p) ∨ ∃ e, l.Unplaced governing item e := by
  cases d with
  | day d => exact .inl ⟨_, .day h⟩
  | utc t => exact .inl ⟨_, .utc h⟩
  | clock t zoneId =>
    obtain rfl : zoneId = l.zoneId? := ListedDate.zoneId_of_readItem h
    cases hzone : l.clockZone governing with
    | error e =>
      obtain ⟨identifier, hnamed, hunknown, rfl⟩ := clockZone_eq_error_iff.1 hzone
      exact .inr ⟨_, .unknownZone h hnamed hunknown⟩
    | ok zone =>
      cases hshown : zone.place t with
      | error e => exact .inr ⟨_, .skippedTime h hzone (Zone.place_eq_error_iff.1 hshown).1⟩
      | ok i => exact .inl ⟨_, .clock h hzone hshown⟩

theorem rightUnique_places : Relator.RightUnique (l.Places governing) := by
  intro item p q hp hq
  cases hp with
  | day h =>
    cases hq with
    | day h' => cases h.symm.trans h'; rfl
    | utc h' => cases h.symm.trans h'
    | clock h' => cases h.symm.trans h'
  | utc h =>
    cases hq with
    | day h' => cases h.symm.trans h'
    | utc h' => cases h.symm.trans h'; rfl
    | clock h' => cases h.symm.trans h'
  | clock h hzone hshown =>
    cases hq with
    | day h' => cases h.symm.trans h'
    | utc h' => cases h.symm.trans h'
    | clock h' hzone' hshown' =>
      cases h.symm.trans h'
      cases hzone.symm.trans hzone'
      cases hshown.symm.trans hshown'
      rfl

theorem Places.clock_shown {p : PlacedDate} {t : DateTime} (h : l.Places governing item p)
    (hclock : l.IsClock item t) :
    ∃ zone i, l.clockZone governing = .ok zone ∧ zone.place t = .ok i := by
  cases h with
  | day h => cases h.symm.trans hclock
  | utc h => cases h.symm.trans hclock
  | clock h hzone hshown =>
    cases h.symm.trans hclock
    exact ⟨_, _, hzone, hshown⟩

theorem Unplaced.clock_not_shown {e : ZoneError} (h : l.Unplaced governing item e) :
    ∃ t, l.IsClock item t ∧
      ∀ zone i, l.clockZone governing = .ok zone → zone.place t ≠ .ok i := by
  cases h with
  | unknownZone h hnamed hunknown =>
    refine ⟨_, h, ?_⟩
    intro zone i hzone
    rw [clockZone, hnamed] at hzone
    exact absurd hzone (hunknown zone)
  | skippedTime h hzone hskipped =>
    refine ⟨_, h, ?_⟩
    intro zone i hzone' hshown
    obtain rfl := Except.ok.inj (hzone.symm.trans hzone')
    exact nomatch (Zone.place_eq_error_iff.2 ⟨hskipped, rfl⟩).symm.trans hshown

variable (governing) in
theorem places_or_first_unplaced {items : List (List Char)}
    (h : ∀ item ∈ items, ∃ d, l.readItem item = .ok d) :
    (∃ ps, List.Forall₂ (l.Places governing) items ps) ∨
      ∃ earlier item later e, items = earlier ++ item :: later ∧
        (∃ ps, List.Forall₂ (l.Places governing) earlier ps) ∧ l.Unplaced governing item e := by
  induction items with
  | nil => exact .inl ⟨[], .nil⟩
  | cons item items ih =>
    obtain ⟨⟨d, hd⟩, hrest⟩ := List.forall_mem_cons.1 h
    rcases places_or_unplaced hd with ⟨p, hp⟩ | ⟨e, he⟩
    · rcases ih hrest with ⟨ps, hps⟩ | ⟨earlier, first, later, e, rfl, ⟨ps, hps⟩, he⟩
      · exact .inl ⟨p :: ps, .cons hp hps⟩
      · exact .inr ⟨item :: earlier, first, later, e, rfl, ⟨p :: ps, .cons hp hps⟩, he⟩
    · exact .inr ⟨[], item, items, e, rfl, ⟨[], .nil⟩, he⟩

theorem exists_places_of_mem {items : List (List Char)} {ps : List PlacedDate}
    (h : List.Forall₂ (l.Places governing) items ps) :
    ∀ item ∈ items, ∃ p, l.Places governing item p := by
  induction h with
  | nil => exact nofun
  | cons hp _ ih => exact List.forall_mem_cons.2 ⟨⟨_, hp⟩, ih⟩

theorem clocksShown_of_places {ps : List PlacedDate}
    (h : List.Forall₂ (l.Places governing) l.items ps) : l.ClocksShown governing := by
  intro item hitem t hclock
  obtain ⟨p, hp⟩ := exists_places_of_mem h item hitem
  exact hp.clock_shown hclock

theorem not_clocksShown_of_unplaced {e : ZoneError} (hitem : item ∈ l.items)
    (h : l.Unplaced governing item e) : ¬l.ClocksShown governing := by
  intro hshown
  obtain ⟨t, hclock, hnot⟩ := h.clock_not_shown
  obtain ⟨zone, i, hzone, hplace⟩ := hshown item hitem t hclock
  exact hnot zone i hzone hplace

end ContentLine

namespace Contribution

variable {f : Frame} {resolver : Resolver} {l : ContentLine} {item : List Char} {d : ListedDate}

theorem place_clock (t : DateTime) :
    (place f {} (.clock t l.zoneId?)).1 =
      l.clockZone f.governing >>= fun zone => (zone.place t).map fun i => ⟨i.second, false⟩ := by
  unfold ContentLine.clockZone
  cases hzone : l.zoneId? with
  | none => rfl
  | some identifier =>
    obtain ⟨hsame, -⟩ := Resolver.faithful_empty.resolve identifier
    rcases hr : Resolver.resolve {} identifier with ⟨answer, after⟩
    rw [hr] at hsame
    obtain rfl : answer = Zone.resolve identifier := hsame
    simp only [place, hr]
    cases Zone.resolve identifier with
    | error e => rfl
    | ok zone => rfl

theorem place_eq_ok (h : l.readItem item = .ok d) {p : PlacedDate}
    (hitem : l.Places f.governing item p) : (place f {} d).1 = .ok p := by
  cases hitem with
  | day h' =>
    cases h.symm.trans h'
    rfl
  | utc h' =>
    cases h.symm.trans h'
    rfl
  | clock h' hzone hshown =>
    cases h.symm.trans h'
    rw [place_clock, hzone]
    exact map_eq_ok_iff.2 ⟨_, hshown, rfl⟩

theorem place_eq_error (h : l.readItem item = .ok d) {e : ZoneError}
    (hitem : l.Unplaced f.governing item e) : (place f {} d).1 = .error e := by
  cases hitem with
  | unknownZone h' hnamed hunknown =>
    cases h.symm.trans h'
    rw [place_clock, ContentLine.clockZone_eq_error_iff.2 ⟨_, hnamed, hunknown, rfl⟩]
    rfl
  | skippedTime h' hzone hskipped =>
    cases h.symm.trans h'
    rw [place_clock, hzone]
    exact map_eq_error_iff.2 (Zone.place_eq_error_iff.2 ⟨hskipped, rfl⟩)

theorem placeAll_eq_error (h : resolver.Faithful) {earlier later : List ListedDate}
    {ps : List PlacedDate} {e : ZoneError}
    (hearlier : (earlier.map fun d => (place f {} d).1) = ps.map .ok)
    (hd : (place f {} d).1 = .error e) :
    (placeAll f resolver (earlier ++ d :: later)).1 = .error e := by
  induction earlier generalizing resolver ps with
  | nil =>
    obtain ⟨hsame, -⟩ := place_faithful f h Resolver.faithful_empty d
    rw [List.nil_append, placeAll]
    rcases hp : place f resolver d with ⟨placed, after⟩
    rw [hp, hd] at hsame
    obtain rfl : placed = .error e := hsame
    rfl
  | cons first earlier ih =>
    obtain ⟨p, ps, rfl, hfirst, hearlier⟩ := List.map_eq_cons_iff.1 hearlier.symm
    obtain ⟨hsame, hafter⟩ := place_faithful f h Resolver.faithful_empty first
    rw [List.cons_append, placeAll]
    rcases hp : place f resolver first with ⟨placed, after⟩
    rw [hp] at hsame hafter
    obtain rfl : placed = .ok p := hsame.trans hfirst.symm
    dsimp only
    rw [map_eq_error_iff]
    exact ih hafter hearlier.symm

variable {number : Nat} {listed : List ListedDate}

theorem map_place_eq {items : List (List Char)} {listed : List ListedDate} {ps : List PlacedDate}
    (hread : items.map l.readItem = listed.map .ok)
    (h : List.Forall₂ (l.Places f.governing) items ps) :
    (listed.map fun d => (place f {} d).1) = ps.map .ok := by
  induction h generalizing listed with
  | nil =>
    obtain rfl : listed = [] := List.map_eq_nil_iff.1 hread.symm
    rfl
  | cons hp _ ih =>
    obtain ⟨d, ds, rfl, hd, hds⟩ := List.map_eq_cons_iff.1 hread.symm
    rw [List.map_cons, List.map_cons, place_eq_ok hd.symm hp, ih hds.symm]

theorem ofDates_of_places (hlist : l.dateList number = .ok listed) {ps : List PlacedDate}
    (h : List.Forall₂ (l.Places f.governing) l.items ps) :
    (ofDates f {} l number).1 = .ok ps :=
  ofDates_eq_ok_iff.2
    ⟨listed, hlist, map_place_eq (ContentLine.dateList_eq_ok_iff.1 hlist).2 h⟩

theorem ofDates_of_unplaced (hlist : l.dateList number = .ok listed)
    {earlier later : List (List Char)} (hitems : l.items = earlier ++ item :: later)
    {ps : List PlacedDate} (hearlier : List.Forall₂ (l.Places f.governing) earlier ps)
    {e : ZoneError} (hitem : l.Unplaced f.governing item e) :
    (ofDates f {} l number).1 = .error (.refused (l.refusal number e)) := by
  have hread : l.items.map l.readItem = listed.map .ok :=
    (ContentLine.dateList_eq_ok_iff.1 hlist).2
  rw [hitems, List.map_append, List.map_cons] at hread
  obtain ⟨ds, rest, rfl, hds, hrest⟩ := List.map_eq_append_iff.1 hread.symm
  obtain ⟨d, ds', rfl, hd, -⟩ := List.map_eq_cons_iff.1 hrest
  have hfails : (placeAll f {} (ds ++ d :: ds')).1 = .error e :=
    placeAll_eq_error Resolver.faithful_empty (map_place_eq hds.symm hearlier)
      (place_eq_error hd.symm hitem)
  unfold ofDates
  rw [hlist]
  dsimp only
  rcases hp : placeAll f {} (ds ++ d :: ds') with ⟨placed, after⟩
  rw [hp] at hfails
  obtain rfl : placed = .error e := hfails
  rfl

end Contribution

namespace LogicalLine

variable {f : Frame} {l : LogicalLine} {line : ContentLine}
  {make : List PlacedDate → Contribution}

theorem read_dates (hparse : ContentLine.parse l.text l.number = .ok line)
    (hmake : line.Lists make) :
    l.read f = (Contribution.ofDates f {} line l.number).1.map make := by
  unfold read Contribution.ofLine
  rw [hparse]
  rcases hmake with ⟨hproperty, rfl⟩ | ⟨hproperty, rfl⟩
  · simp only [hproperty]
  · simp only [hproperty]

end LogicalLine

namespace Series

variable {f : Frame} {start : Moment} {governing : Zone} {data : String}
  {before after : List LogicalLine} {l : LogicalLine} {c : Compiled}

theorem eq_of_compile_accepted (hframe : Frame.ofStart start governing = .ok f)
    {contribution : Contribution} (hread : l.read f = .ok contribution)
    (hdata : LogicalLine.split data = before ++ l :: after) {strict : Bool}
    (h : compile data start governing strict = .ok c) :
    c.series = (contributions f after).foldl add
        (((contributions f before).foldl add (ofFrame f)).add contribution) ∧
      c.skipped = refusals f (before ++ after) := by
  have haccepted := LogicalLine.contribution?_eq_some_iff.2 hread
  have hnone : l.refusal? f = none := by rw [LogicalLine.refusal?, hread]
  obtain ⟨-, rfl⟩ := eq_of_compile hframe h
  constructor
  · rw [hdata, contributions_append_cons, haccepted]
    simp [List.foldl_append]
  · rw [hdata, refusals_append_cons, hnone]
    simp [refusals]

theorem eq_of_compile_refused (hframe : Frame.ofStart start governing = .ok f) {e : LineError}
    (hread : l.read f = .error (.refused e))
    (hdata : LogicalLine.split data = before ++ l :: after) :
    compile data start governing true ≠ .ok c ∧
      (compile data start governing false = .ok c →
        c.series = (contributions f (before ++ after)).foldl add (ofFrame f) ∧
        c.skipped = refusals f before ++ e :: refusals f after) := by
  have hrefused := LogicalLine.refusal?_eq_some_iff.2 hread
  have hnone : l.contribution? f = none := by
    rw [LogicalLine.contribution?, hread]
    rfl
  constructor
  · intro hstrict
    have hmem : l ∈ LogicalLine.split data := by
      rw [hdata]
      exact List.mem_append_right before List.mem_cons_self
    obtain ⟨contribution, hok⟩ := accepted_of_compile_strict hframe hstrict l hmem
    simp [hread] at hok
  · intro h
    obtain ⟨-, rfl⟩ := eq_of_compile hframe h
    constructor
    · rw [hdata, contributions_append_cons, hnone]
      simp [contributions]
    · rw [hdata, refusals_append_cons, hrefused]
      simp

/-- Whether a list of dates is accepted, and what it adds, is settled by its items and the zone of
its wall clocks: neither by the start of the series nor by other lines. It adds one instant for each
item that is not blank, in the order of the items. If a wall clock has no place in its zone, the
line is refused with the fault of the first such item and adds nothing. -/
theorem compile_dates_line {line : ContentLine} {listed : List ListedDate}
    {make : List PlacedDate → Contribution}
    (hparse : ContentLine.parse l.text l.number = .ok line) (hmake : line.Lists make)
    (hlist : line.dateList l.number = .ok listed) (governing : Zone) :
    (line.ClocksShown governing →
      ∃ ps, List.Forall₂ (line.Places governing) line.items ps ∧
        ∀ start f, Frame.ofStart start governing = .ok f →
          l.read f = .ok (make ps) ∧
          ∀ data before after, LogicalLine.split data = before ++ l :: after →
            ∀ strict c, compile data start governing strict = .ok c →
              c.series = (contributions f after).foldl add
                (((contributions f before).foldl add (ofFrame f)).add (make ps)) ∧
              c.skipped = refusals f (before ++ after)) ∧
    (¬line.ClocksShown governing →
      ∃ earlier item later e, line.items = earlier ++ item :: later ∧
        (∃ ps, List.Forall₂ (line.Places governing) earlier ps) ∧
        line.Unplaced governing item e ∧
        ∀ start f, Frame.ofStart start governing = .ok f →
          l.read f = .error (.refused (line.refusal l.number e)) ∧
          ∀ data before after, LogicalLine.split data = before ++ l :: after →
            ∀ c, compile data start governing true ≠ .ok c ∧
              (compile data start governing false = .ok c →
                c.series = (contributions f (before ++ after)).foldl add (ofFrame f) ∧
                c.skipped = refusals f before ++
                  line.refusal l.number e :: refusals f after)) := by
  have hread : ∀ item ∈ line.items, ∃ d, line.readItem item = .ok d := by
    have hmap := (ContentLine.dateList_eq_ok_iff.1 hlist).2
    intro item hitem
    have hmem : line.readItem item ∈ listed.map .ok := hmap ▸ List.mem_map_of_mem hitem
    obtain ⟨d, -, hd⟩ := List.mem_map.1 hmem
    exact ⟨d, hd.symm⟩
  rcases ContentLine.places_or_first_unplaced governing hread with
    ⟨ps, hps⟩ | ⟨earlier, item, later, e, hitems, ⟨ps, hps⟩, he⟩
  · refine ⟨fun _ => ⟨ps, hps, ?_⟩, fun hnot => absurd (ContentLine.clocksShown_of_places hps) hnot⟩
    intro start f hframe
    obtain ⟨-, rfl⟩ := Frame.of_ofStart hframe
    have haccepted : l.read f = .ok (make ps) := by
      rw [LogicalLine.read_dates hparse hmake, Contribution.ofDates_of_places hlist hps]
      rfl
    refine ⟨haccepted, ?_⟩
    intro data before after hdata strict c hc
    exact eq_of_compile_accepted hframe haccepted hdata hc
  · have hmem : item ∈ line.items := hitems ▸ List.mem_append_right earlier List.mem_cons_self
    refine ⟨fun hshown => absurd hshown (ContentLine.not_clocksShown_of_unplaced hmem he),
      fun _ => ⟨earlier, item, later, e, hitems, ⟨ps, hps⟩, he, ?_⟩⟩
    intro start f hframe
    obtain ⟨-, rfl⟩ := Frame.of_ofStart hframe
    have hrefused : l.read f = .error (.refused (line.refusal l.number e)) := by
      rw [LogicalLine.read_dates hparse hmake,
        Contribution.ofDates_of_unplaced hlist hitems hps he]
      rfl
    refine ⟨hrefused, ?_⟩
    intro data before after hdata c
    exact eq_of_compile_refused hframe hrefused hdata

/-- Of two zones that are named the first counts, and its clock skips the time that is listed. Where
the clock leaves out a whole day, the days that are listed before are not added either. -/
theorem compile_dates_line_named_zones :
    (let l : LogicalLine := ⟨1, ("RDATE;TZID=Africa/Sao_Tome;TZID=Nowhere:" ++
        "20240105,20180101T013000,,20240102T090000Z").toList⟩
      ∀ start f, Frame.ofStart start Zone.utc = .ok f → l.read f =
        .ok (.dates [⟨1704412800, true⟩, ⟨1514770200, false⟩, ⟨1704186000, false⟩])) ∧
    let l : LogicalLine := ⟨1, "EXDATE;TZID=Pacific/Fakaofo:20240105,20111230T100000".toList⟩
    let refusal : LineError := {
      fault := .skippedTime
      line := 1
      column := 29
      context := some "Non-existent time (DST gap): 2011-12-30 10:00:00 in Pacific/Fakaofo" }
    ∀ start f, Frame.ofStart start Zone.utc = .ok f → l.read f = .error (.refused refusal) := by
  refine ⟨?placed, ?refused⟩
  case placed =>
    intro l
    let line : ContentLine :=
      ⟨"RDATE", [⟨"TZID", ["Africa/Sao_Tome"]⟩, ⟨"TZID", ["Nowhere"]⟩],
        "20240105,20180101T013000,,20240102T090000Z", 40⟩
    let ps : List PlacedDate := [⟨1704412800, true⟩, ⟨1514770200, false⟩, ⟨1704186000, false⟩]
    have hday : line.readItem "20240105".toList = .ok (.day (Date.ofDayNumber 19727)) := by
      decide +kernel
    have hclock : line.readItem "20180101T013000".toList =
        .ok (.clock (DateTime.ofSeconds 1514770200) line.zoneId?) := by
      decide +kernel
    have hutc : line.readItem "20240102T090000Z".toList =
        .ok (.utc (DateTime.ofSeconds 1704186000)) := by
      decide +kernel
    have hzone : line.clockZone Zone.utc = .ok Zone.saoTome := by decide +kernel
    have hshown : Zone.saoTome.place (DateTime.ofSeconds 1514770200) =
        .ok (Instant.ofSecond 1514770200) := by
      decide +kernel
    have hplaces : List.Forall₂ (line.Places Zone.utc)
        ["20240105".toList, "20180101T013000".toList, "20240102T090000Z".toList] ps :=
      .cons (.day hday) (.cons (.clock hclock hzone hshown) (.cons (.utc hutc) .nil))
    have hitems : line.items =
        ["20240105".toList, "20180101T013000".toList, "20240102T090000Z".toList] := by
      decide +kernel
    have hparse : ContentLine.parse l.text l.number = .ok line := by decide +kernel
    have hmake : line.Lists .dates := .inl ⟨by decide +kernel, rfl⟩
    have hlist := eq_ok_get (e := line.dateList l.number) (by decide +kernel)
    obtain ⟨haccepted, -⟩ := compile_dates_line hparse hmake hlist Zone.utc
    rw [← hitems] at hplaces
    obtain ⟨qs, hqs, hread⟩ := haccepted (ContentLine.clocksShown_of_places hplaces)
    obtain rfl : qs = ps := ContentLine.rightUnique_places.forall₂ hqs hplaces
    exact fun start f hframe => (hread start f hframe).1
  case refused =>
    intro l refusal
    let line : ContentLine :=
      ⟨"EXDATE", [⟨"TZID", ["Pacific/Fakaofo"]⟩], "20240105,20111230T100000", 28⟩
    have hitem : "20111230T100000".toList ∈ line.items := by decide +kernel
    have hclock : line.readItem "20111230T100000".toList =
        .ok (.clock (DateTime.ofSeconds 1325239200) line.zoneId?) := by
      decide +kernel
    have hzone : line.clockZone Zone.utc = .ok Zone.fakaofo := by decide +kernel
    have hunplaced : line.Unplaced Zone.utc "20111230T100000".toList _ :=
      .skippedTime hclock hzone (by decide +kernel)
    have hparse : ContentLine.parse l.text l.number = .ok line := by decide +kernel
    have hmake : line.Lists .exclusionDates := .inr ⟨by decide +kernel, rfl⟩
    have hlist := eq_ok_get (e := line.dateList l.number) (by decide +kernel)
    obtain ⟨-, hrefused⟩ := compile_dates_line hparse hmake hlist Zone.utc
    obtain ⟨-, -, -, e, -, -, -, hread⟩ :=
      hrefused (ContentLine.not_clocksShown_of_unplaced hitem hunplaced)
    let f : Frame := ⟨1704067200, true, Zone.utc⟩
    have hframe : Frame.ofStart (.ofSecond 1704067200 true) Zone.utc = .ok f := by decide +kernel
    have hrefusal : l.read f = .error (.refused refusal) := by decide +kernel
    have hsame : line.refusal 1 e = refusal :=
      LineFailure.refused.inj (Except.error.inj ((hread _ f hframe).1.symm.trans hrefusal))
    exact hsame ▸ fun start f hframe => (hread start f hframe).1

end Series

end Almanac
