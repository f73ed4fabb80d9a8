import Almanac.Proofs.Rule.Times

/-! Texts of rules that break reading off. A weekday is cut two bytes before its end, which fails if
the cut would go through a character: `parse_eq_brokenOff_iff` says which texts come to that. -/

namespace Almanac.RuleParts

open Text (byteLength)

/-- The item has two bytes or more, and its last two begin inside a character. -/
structure CutsCharacter (item : List Char) : Prop where
  long : 2 ≤ byteLength item
  inside : ∀ place name, item = place ++ name → byteLength name ≠ 2

theorem cutLastTwoBytes?_of_one {before : List Char} {c : Char} (hc : c.utf8Size = 2) :
    cutLastTwoBytes? (before ++ [c]) = some (before, [c]) := by
  simp [cutLastTwoBytes?, hc]

theorem cutLastTwoBytes?_of_two {before : List Char} {b c : Char} (hb : b.utf8Size = 1)
    (hc : c.utf8Size = 1) : cutLastTwoBytes? (before ++ [b, c]) = some (before, [b, c]) := by
  simp [cutLastTwoBytes?, hb, hc]

theorem two_bytes_cases {cs : List Char} (h : byteLength cs = 2) :
    (∃ c, cs = [c] ∧ c.utf8Size = 2) ∨ ∃ b c, cs = [b, c] ∧ b.utf8Size = 1 ∧ c.utf8Size = 1 := by
  match cs, h with
  | [c], h => exact Or.inl ⟨c, rfl, h⟩
  | [b, c], h =>
    have hb := b.utf8Size_pos
    have hc := c.utf8Size_pos
    simp only [Text.byteLength_cons, Text.byteLength_nil] at h
    exact Or.inr ⟨b, c, rfl, by omega, by omega⟩
  | a :: b :: c :: rest, h =>
    have ha := a.utf8Size_pos
    have hb := b.utf8Size_pos
    have hc := c.utf8Size_pos
    simp only [Text.byteLength_cons] at h
    omega

theorem eq_append_of_cutLastTwoBytes? {cs before last : List Char}
    (h : cutLastTwoBytes? cs = some (before, last)) :
    cs = before ++ last ∧ byteLength last = 2 := by
  unfold cutLastTwoBytes? at h
  split at h
  · simp at h
  · next c rest hcs =>
    have hcs : cs = rest.reverse ++ [c] := by
      rw [← List.reverse_cons, ← hcs, List.reverse_reverse]
    split at h
    · next hc =>
      obtain ⟨rfl, rfl⟩ := Prod.mk.inj (Option.some.inj h)
      exact ⟨hcs, hc⟩
    · split at h
      · simp at h
      · next b rest =>
        split at h
        · next hsizes =>
          obtain ⟨rfl, rfl⟩ := Prod.mk.inj (Option.some.inj h)
          rw [List.reverse_cons, List.append_assoc] at hcs
          refine ⟨hcs, ?_⟩
          simp only [Text.byteLength_cons, Text.byteLength_nil, hsizes.1, hsizes.2]
        · simp at h

theorem cutLastTwoBytes?_eq_none_iff {cs : List Char} :
    cutLastTwoBytes? cs = none ↔ ∀ before last, cs = before ++ last → byteLength last ≠ 2 := by
  constructor
  · rintro hnone before last rfl htwo
    rcases two_bytes_cases htwo with ⟨c, rfl, hc⟩ | ⟨b, c, rfl, hb, hc⟩
    · rw [cutLastTwoBytes?_of_one hc] at hnone
      simp at hnone
    · rw [cutLastTwoBytes?_of_two hb hc] at hnone
      simp at hnone
  · intro hnowhere
    cases hcut : cutLastTwoBytes? cs with
    | none => rfl
    | some pieces =>
      obtain ⟨before, last⟩ := pieces
      obtain ⟨happend, htwo⟩ := eq_append_of_cutLastTwoBytes? hcut
      exact absurd htwo (hnowhere before last happend)

theorem readWeekdayChoice_eq_brokenOff_iff {item : List Char} :
    readWeekdayChoice item = .error .brokenOff ↔ CutsCharacter item := by
  unfold readWeekdayChoice
  dsimp only
  split
  · next hshort =>
    constructor
    · intro h
      simp at h
    · intro h
      exact absurd h.long (Nat.not_le.2 hshort)
  · next hlong =>
    split
    · next hcut =>
      exact iff_of_true rfl ⟨Nat.not_lt.1 hlong, cutLastTwoBytes?_eq_none_iff.1 hcut⟩
    · next place name hcut =>
      have hfound : ¬CutsCharacter item := by
        intro h
        obtain ⟨happend, htwo⟩ := eq_append_of_cutLastTwoBytes? hcut
        exact h.inside place name happend htwo
      split
      · simp [hfound]
      · simp [hfound]

def CutsInList (items : List (List Char)) : Prop :=
  ∃ before item after, items = before ++ item :: after ∧ CutsCharacter item ∧
    ∀ earlier ∈ before, ∃ choice, readWeekdayChoice earlier = .ok choice

theorem cutsInList_cons {item : List Char} {items : List (List Char)} :
    CutsInList (item :: items) ↔ CutsCharacter item ∨
      (∃ choice, readWeekdayChoice item = .ok choice) ∧ CutsInList items := by
  constructor
  · rintro ⟨before, other, after, happend, hcuts, hread⟩
    cases before with
    | nil => exact Or.inl ((List.cons.inj happend).1 ▸ hcuts)
    | cons b before =>
      obtain ⟨rfl, rfl⟩ : item = b ∧ items = before ++ other :: after := List.cons.inj happend
      obtain ⟨hitem, hbefore⟩ := List.forall_mem_cons.1 hread
      exact Or.inr ⟨hitem, before, other, after, rfl, hcuts, hbefore⟩
  · rintro (hcuts | ⟨hitem, before, other, after, rfl, hcuts, hread⟩)
    · exact ⟨[], item, items, rfl, hcuts, fun _ hb => absurd hb List.not_mem_nil⟩
    · exact ⟨item :: before, other, after, rfl, hcuts, List.forall_mem_cons.2 ⟨hitem, hread⟩⟩

theorem readWeekdayChoices_eq_brokenOff_iff {items : List (List Char)} :
    readWeekdayChoices items = .error .brokenOff ↔ CutsInList items := by
  induction items with
  | nil => simp [readWeekdayChoices, CutsInList]
  | cons item items ih =>
    rw [cutsInList_cons, ← ih, ← readWeekdayChoice_eq_brokenOff_iff, readWeekdayChoices]
    cases readWeekdayChoice item with
    | error failure => simp [bind, Except.bind]
    | ok choice =>
      cases readWeekdayChoices items with
      | error failure => simp [bind, Except.bind]
      | ok choices => simp [bind, Except.bind, pure, Except.pure]

section Parts

variable {α β : Type} {pairs : List (RuleKey × List Char)}

theorem bind_eq_brokenOff_iff {x : Except RuleFailure α} {g : α → Except RuleFailure β}
    (hx : x ≠ .error .brokenOff) :
    x >>= g = .error .brokenOff ↔ ∃ a, x = .ok a ∧ g a = .error .brokenOff := by
  cases x with
  | error failure => simpa [bind, Except.bind] using hx
  | ok a => simp [bind, Except.bind]

theorem bind_eq_brokenOff_iff_of_ne {x : Except RuleFailure α} {g : α → Except RuleFailure β}
    (hg : ∀ a, g a ≠ .error .brokenOff) :
    x >>= g = .error .brokenOff ↔ x = .error .brokenOff := by
  cases x with
  | error failure => simp [bind, Except.bind]
  | ok a => simpa [bind, Except.bind] using hg a

theorem readList_ne_brokenOff (pairs : List (RuleKey × List Char)) (part : ListPart) :
    readList pairs part ≠ .error .brokenOff := by
  unfold readList
  split
  · nofun
  · nofun
  · split <;> nofun

theorem readValues_ne_brokenOff (pairs : List (RuleKey × List Char)) :
    readFrequency pairs ≠ .error .brokenOff ∧ readInterval pairs ≠ .error .brokenOff ∧
      readCount pairs ≠ .error .brokenOff ∧ readEnd pairs ≠ .error .brokenOff ∧
        readWeekStart pairs ≠ .error .brokenOff := by
  unfold readFrequency readInterval readCount readEnd readWeekStart
  dsimp only
  refine ⟨?_, ?_, ?_, ?_, ?_⟩ <;> split
  all_goals try split
  all_goals simp

/-- Everything that is read before the weekdays can be read. -/
structure PrecedingRead (pairs : List (RuleKey × List Char)) : Prop where
  frequency : ∃ frequency, readFrequency pairs = .ok frequency
  interval : ∃ interval, readInterval pairs = .ok interval
  count : ∃ count?, readCount pairs = .ok count?
  ending : ∃ ending?, readEnd pairs = .ok ending?
  weekStart : ∃ weekStart, readWeekStart pairs = .ok weekStart
  lists : ∀ part ∈ [ListPart.setPositions, .months, .monthDays, .yearDays, .weekNumbers],
    ∃ ns, readList pairs part = .ok ns

theorem ofPairs_eq_brokenOff_iff :
    ofPairs pairs = .error .brokenOff ↔
      PrecedingRead pairs ∧ readWeekdays pairs = .error .brokenOff := by
  obtain ⟨hfrequency, hinterval, hcount, hending, hweekStart⟩ := readValues_ne_brokenOff pairs
  have hlist := readList_ne_brokenOff pairs
  have htimes (g : List Int → List Int → List Int → RuleParts) :
      (do
        let hours ← readList pairs .hours
        let minutes ← readList pairs .minutes
        let seconds ← readList pairs .seconds
        return g hours minutes seconds) ≠ (Except.error .brokenOff : Except RuleFailure _) := by
    rw [ne_eq, bind_eq_brokenOff_iff (hlist .hours)]
    rintro ⟨hours, -, h⟩
    rw [bind_eq_brokenOff_iff (hlist .minutes)] at h
    obtain ⟨minutes, -, h⟩ := h
    rw [bind_eq_brokenOff_iff (hlist .seconds)] at h
    obtain ⟨seconds, -, h⟩ := h
    simp [pure, Except.pure] at h
  unfold ofPairs
  constructor
  · intro h
    obtain ⟨frequency, hf, h⟩ := (bind_eq_brokenOff_iff hfrequency).1 h
    obtain ⟨interval, hi, h⟩ := (bind_eq_brokenOff_iff hinterval).1 h
    obtain ⟨count?, hc, h⟩ := (bind_eq_brokenOff_iff hcount).1 h
    obtain ⟨ending?, he, h⟩ := (bind_eq_brokenOff_iff hending).1 h
    obtain ⟨weekStart, hw, h⟩ := (bind_eq_brokenOff_iff hweekStart).1 h
    obtain ⟨setPositions, hs, h⟩ := (bind_eq_brokenOff_iff (hlist .setPositions)).1 h
    obtain ⟨months, hm, h⟩ := (bind_eq_brokenOff_iff (hlist .months)).1 h
    obtain ⟨monthDays, hmd, h⟩ := (bind_eq_brokenOff_iff (hlist .monthDays)).1 h
    obtain ⟨yearDays, hyd, h⟩ := (bind_eq_brokenOff_iff (hlist .yearDays)).1 h
    obtain ⟨weekNumbers, hwn, h⟩ := (bind_eq_brokenOff_iff (hlist .weekNumbers)).1 h
    refine ⟨⟨⟨_, hf⟩, ⟨_, hi⟩, ⟨_, hc⟩, ⟨_, he⟩, ⟨_, hw⟩, ?_⟩,
      (bind_eq_brokenOff_iff_of_ne fun weekdays => htimes _).1 h⟩
    simp [hs, hm, hmd, hyd, hwn]
  · rintro ⟨h, hweekdays⟩
    obtain ⟨frequency, hf⟩ := h.frequency
    obtain ⟨interval, hi⟩ := h.interval
    obtain ⟨count?, hc⟩ := h.count
    obtain ⟨ending?, he⟩ := h.ending
    obtain ⟨weekStart, hw⟩ := h.weekStart
    obtain ⟨setPositions, hs⟩ := h.lists .setPositions (by simp)
    obtain ⟨months, hm⟩ := h.lists .months (by simp)
    obtain ⟨monthDays, hmd⟩ := h.lists .monthDays (by simp)
    obtain ⟨yearDays, hyd⟩ := h.lists .yearDays (by simp)
    obtain ⟨weekNumbers, hwn⟩ := h.lists .weekNumbers (by simp)
    rw [hf, hi, hc, he, hw, hs, hm, hmd, hyd, hwn, hweekdays]
    rfl

/-- The weekdays of the text break reading off, and nothing before them is at fault. -/
def BreaksOff (text : String) : Prop :=
  ∃ cs pairs, body text.toList = .ok cs ∧ readPairs [] (cs.splitOn ';') = .ok pairs ∧
    PrecedingRead pairs ∧
      ∃ value, pairs.lookup (.list .weekdays) = some value ∧ CutsInList (value.splitOn ',')

theorem parse_eq_brokenOff_iff {text : String} :
    parse text = .error .brokenOff ↔ BreaksOff text := by
  have hweekdays (pairs : List (RuleKey × List Char)) :
      readWeekdays pairs = .error .brokenOff ↔
        ∃ value, pairs.lookup (.list .weekdays) = some value ∧ CutsInList (value.splitOn ',') := by
    unfold readWeekdays
    cases pairs.lookup (.list .weekdays) with
    | none => simp
    | some value => simp [readWeekdayChoices_eq_brokenOff_iff]
  unfold parse BreaksOff
  cases body text.toList with
  | error reason => simp
  | ok cs =>
    simp only [Except.ok.injEq, exists_eq_left', exists_and_left]
    cases readPairs [] (cs.splitOn ';') with
    | error reason => simp
    | ok pairs => simp [ofPairs_eq_brokenOff_iff, hweekdays]

end Parts

end Almanac.RuleParts
