import Almanac.Proofs.Line.WrittenValues
import Almanac.Proofs.Rule.Weekdays
import Almanac.Rule.Written

/-! The end of a rule, in the text of the rule. A text with one place left open for the value of
`UNTIL` is cut the same way whatever end stands there, so that the rules it reads as differ in their
end alone: `parse_text`. An end without a zone is a day or a wall clock:
`readEnd?_eq_floating_iff`. -/

namespace Almanac

theorem length_of_readDate {cs : List Char} {d : Date} (h : readDate cs = .ok d) :
    cs.length = 8 := by
  obtain ⟨hplain, rfl⟩ := readDate_eq_ok_iff.1 h
  exact (d.fields_basic hplain).1

theorem mem_of_readTime {cs : List Char} {read : TimeOfDay × Bool} (h : readTime cs = .ok read)
    {c : Char} (hc : c ∈ cs) : c.isDigit = true ∨ c = 'Z' := by
  obtain rfl := readTime_eq_ok_iff.1 h
  rcases List.mem_append.1 hc with hdigit | hmark
  · exact Or.inl (TimeOfDay.isDigit_of_mem_basic hdigit)
  · exact Or.inr (mem_utcMark hmark)

namespace RuleParts

/-- A day, or a day and a wall clock, that names no zone; a day ends a rule at its midnight. -/
inductive Zoneless : List Char → DateTime → Prop
  | day {cs : List Char} {d : Date} (date : readDate cs = .ok d) : Zoneless cs (DateTime.midnight d)
  | clock {cs ts : List Char} {d : Date} {t : TimeOfDay} (date : readDate cs = .ok d)
      (time : readTime ts = .ok (t, false)) : Zoneless (cs ++ 'T' :: ts) ⟨d, t⟩

section Values

variable {value cs ts : List Char} {d : Date} {t : TimeOfDay} {e : RuleEnd}

theorem readEnd?_day (h : readDate cs = .ok d) :
    readEnd? cs = some (.floating (DateTime.midnight d)) := by
  have hlength := length_of_readDate h
  have hle : cs.length ≤ 8 := Nat.le_of_eq hlength
  rw [readEnd?, List.take_of_length_le hle, List.drop_of_length_le hle, h]
  rfl

theorem readEnd?_clock {isUtc : Bool} (hdate : readDate cs = .ok d)
    (htime : readTime ts = .ok (t, isUtc)) :
    readEnd? (cs ++ 'T' :: ts) =
      some (if isUtc then .utc ⟨d, t⟩ else .floating ⟨d, t⟩) := by
  have hlength := length_of_readDate hdate
  rw [readEnd?, List.take_left' hlength, List.drop_left' hlength, hdate]
  cases isUtc with
  | false => simp only [Except.toOption, htime, Bool.false_eq_true, if_false]
  | true => simp only [Except.toOption, htime, if_true]

theorem cases_of_readEnd? (h : readEnd? value = some e) :
    (∃ d, readDate value = .ok d ∧ e = .floating (DateTime.midnight d)) ∨
      ∃ cs ts d t isUtc, value = cs ++ 'T' :: ts ∧ readDate cs = .ok d ∧
        readTime ts = .ok (t, isUtc) ∧ e = if isUtc then .utc ⟨d, t⟩ else .floating ⟨d, t⟩ := by
  have hvalue := List.take_append_drop 8 value
  unfold readEnd? at h
  cases hdate : readDate (value.take 8) with
  | error fault => simp [hdate, Except.toOption] at h
  | ok d =>
    simp only [hdate, Except.toOption] at h
    split at h
    · next date hsome hrest =>
      obtain rfl : d = date := Option.some.inj hsome
      rw [hrest, List.append_nil] at hvalue
      rw [hvalue] at hdate
      exact Or.inl ⟨d, hdate, (Option.some.inj h).symm⟩
    · next date ts hsome hrest =>
      obtain rfl : d = date := Option.some.inj hsome
      rw [hrest] at hvalue
      split at h
      · next t htime =>
        exact Or.inr ⟨_, ts, d, t, true, hvalue.symm, hdate, htime, (Option.some.inj h).symm⟩
      · next t htime =>
        exact Or.inr ⟨_, ts, d, t, false, hvalue.symm, hdate, htime, (Option.some.inj h).symm⟩
      · simp at h
    · simp at h

theorem readEnd?_eq_floating_iff {wall : DateTime} :
    readEnd? value = some (.floating wall) ↔ Zoneless value wall := by
  constructor
  · intro h
    rcases cases_of_readEnd? h with ⟨d, hdate, he⟩ | ⟨cs, ts, d, t, isUtc, rfl, hdate, htime, he⟩
    · obtain rfl := RuleEnd.floating.inj he
      exact .day hdate
    · cases isUtc with
      | false =>
        obtain rfl := RuleEnd.floating.inj he
        exact .clock hdate htime
      | true => exact nomatch he
  · intro h
    cases h with
    | day hdate => exact readEnd?_day hdate
    | clock hdate htime => exact readEnd?_clock hdate htime

theorem mem_of_readEnd? (h : readEnd? value = some e) {c : Char} (hc : c ∈ value) :
    c.isDigit = true ∨ c = 'T' ∨ c = 'Z' := by
  rcases cases_of_readEnd? h with ⟨d, hdate, -⟩ | ⟨cs, ts, d, t, isUtc, rfl, hdate, htime, -⟩
  · exact Or.inl (isDigit_of_readDate hdate hc)
  · rcases List.mem_append.1 hc with hmem | hmem
    · exact Or.inl (isDigit_of_readDate hdate hmem)
    · rcases List.mem_cons.1 hmem with rfl | hmem
      · exact Or.inr (Or.inl rfl)
      · rcases mem_of_readTime htime hmem with hdigit | rfl
        · exact Or.inl hdigit
        · exact Or.inr (Or.inr rfl)

theorem readEnd?_writeUtc {n : Int} (h : (DateTime.ofSeconds n).date.HasPlainYear) :
    readEnd? (Rule.writeUtc n).toList = some (.utc (DateTime.ofSeconds n)) := by
  rw [Rule.writeUtc, String.toList_ofList, DateTime.basic, List.append_assoc, List.cons_append]
  exact readEnd?_clock (readDate_basic h) (readTime_basic _)

end Values

end RuleParts

theorem RuleKey.not_mem_of_finish {key : List Char} (h : ofName? key = some .finish) {c : Char}
    (hself : Text.upperOfChar c = [c]) (hc : c ∉ "UNTIL".toList) : c ∉ key := by
  intro hmem
  have hname : String.ofList (Text.toUpper key) = "UNTIL" := by
    obtain ⟨before, after, htable, -⟩ := List.lookup_eq_some_iff.1 h
    have hentry : (String.ofList (Text.toUpper key), RuleKey.finish) ∈ table :=
      htable ▸ List.mem_append_right before List.mem_cons_self
    simpa [table] using hentry
  have hupper : c ∈ Text.toUpper key :=
    List.mem_flatMap.2 ⟨c, hmem, by rw [hself]; exact List.mem_singleton_self c⟩
  rw [← hname, String.toList_ofList] at hc
  exact hc hupper

theorem Text.exists_intercalate_around (c : Char) (before after : List (List Char)) :
    ∃ left right, ∀ piece,
      [c].intercalate (before ++ piece :: after) = left ++ piece ++ right := by
  induction before with
  | nil =>
    cases after with
    | nil => exact ⟨[], [], fun piece => by simp⟩
    | cons next others =>
      refine ⟨[], c :: [c].intercalate (next :: others), fun piece => ?_⟩
      rw [List.nil_append, List.intercalate_cons_cons, List.append_assoc, List.nil_append]
      rfl
  | cons first before ih =>
    obtain ⟨left, right, hrest⟩ := ih
    refine ⟨first ++ c :: left, right, fun piece => ?_⟩
    have hne : before ++ piece :: after ≠ [] :=
      List.append_ne_nil_of_right_ne_nil _ (List.cons_ne_nil _ _)
    obtain ⟨next, others, hcons⟩ := List.exists_cons_of_ne_nil hne
    rw [List.cons_append, hcons, List.intercalate_cons_cons, ← hcons, hrest]
    simp

theorem RuleParts.leadingName?_eq_ite (cs : List Char) :
    leadingName? cs =
      let name := cs.takeWhile Char.isUpper
      let next? := (cs.drop name.length).head?
      if name ≠ [] ∧ (next? = some ':' ∨ next? = some ';') then some name else none := by
  unfold leadingName?
  dsimp only
  by_cases hname : cs.takeWhile Char.isUpper = []
  · simp [hname]
  · rw [if_neg hname]
    cases cs.drop (cs.takeWhile Char.isUpper).length with
    | nil => simp
    | cons c rest =>
      split
      · next hcons => simp [hname, (List.cons.inj hcons).1]
      · next hcons => simp [hname, (List.cons.inj hcons).1]
      · next hcolon hsemicolon =>
        refine (if_neg ?_).symm
        rintro ⟨-, hnext | hnext⟩
        · exact hcolon rest (by rw [Option.some.inj hnext])
        · exact hsemicolon rest (by rw [Option.some.inj hnext])

theorem RuleParts.leadingName?_append {c : Char} (hc : c.isUpper = false) (cs rest : List Char) :
    leadingName? (cs ++ c :: rest) = leadingName? (cs ++ [c]) := by
  have hname (rest : List Char) :
      (cs ++ c :: rest).takeWhile Char.isUpper = cs.takeWhile Char.isUpper := by
    rw [List.takeWhile_append, List.takeWhile_cons_of_neg (by simp [hc])]
    split
    · next hall => rw [List.append_nil, (List.takeWhile_prefix _).eq_of_length hall]
    · rfl
  have hnext (rest : List Char) :
      (cs ++ c :: rest).drop (cs.takeWhile Char.isUpper).length =
        cs.drop (cs.takeWhile Char.isUpper).length ++ c :: rest :=
    List.drop_append_of_le_length (List.takeWhile_prefix Char.isUpper).length_le
  simp only [leadingName?_eq_ite, hname, hnext, List.head?_append, List.head?_cons]

/-- The text of a rule with one place left open: the value of an `UNTIL`, spelled in any letter
case. Parts stand between semicolons, after the first colon if there is one; more of them may be an
`UNTIL` as well. -/
structure EndingText where
  /-- What stands before the first colon, if there is one. -/
  lead? : Option (List Char)
  before : List (List Char)
  key : List Char
  after : List (List Char)
  ofName?_key : RuleKey.ofName? key = some .finish
  no_semicolon : ∀ part ∈ before ++ after, ';' ∉ part
  no_colon_lead : ∀ lead ∈ lead?, ':' ∉ lead
  no_colon : lead? = none → ∀ part ∈ before ++ after, ':' ∉ part

namespace EndingText

def parts (t : EndingText) (value : List Char) : List (List Char) :=
  t.before ++ (t.key ++ '=' :: value) :: t.after

def chars (t : EndingText) (value : List Char) : List Char :=
  (t.lead?.map (· ++ [':'])).getD [] ++ [';'].intercalate (t.parts value)

def text (t : EndingText) (value : List Char) : String :=
  String.ofList (t.chars value)

variable (t : EndingText) {value : List Char}

theorem not_mem_key {c : Char} (h : c ∈ [';', ':', '=']) : c ∉ t.key := by
  have hchar : Text.upperOfChar c = [c] ∧ c ∉ "UNTIL".toList := by
    rcases List.mem_cons.1 h with rfl | h
    · decide +kernel
    · rcases List.mem_cons.1 h with rfl | h
      · decide +kernel
      · obtain rfl := List.mem_singleton.1 h
        decide +kernel
  exact RuleKey.not_mem_of_finish t.ofName?_key hchar.1 hchar.2

theorem not_mem_part {c : Char} (hkey : c ∈ [';', ':'])
    (hparts : ∀ part ∈ t.before ++ t.after, c ∉ part) (hvalue : c ∉ value) :
    ∀ part ∈ t.parts value, c ∉ part := by
  have hmiddle : c ∉ t.key ++ '=' :: value := by
    intro hmem
    rcases List.mem_append.1 hmem with hmem | hmem
    · exact t.not_mem_key (List.mem_append_left ['='] hkey) hmem
    · rcases List.mem_cons.1 hmem with rfl | hmem
      · exact absurd hkey (by decide)
      · exact hvalue hmem
  intro part hpart
  rcases List.mem_append.1 hpart with hpart | hpart
  · exact hparts part (List.mem_append_left _ hpart)
  · rcases List.mem_cons.1 hpart with rfl | hpart
    · exact hmiddle
    · exact hparts part (List.mem_append_right _ hpart)

theorem splitOn_parts (h : ';' ∉ value) :
    ([';'].intercalate (t.parts value)).splitOn ';' = t.parts value := by
  refine List.splitOn_intercalate ';' (t.not_mem_part (by decide) t.no_semicolon h) ?_
  exact List.append_ne_nil_of_right_ne_nil _ (List.cons_ne_nil _ _)

theorem exists_leadingName? :
    ∃ name?, ∀ value, RuleParts.leadingName? (t.chars value) = name? := by
  obtain ⟨left, right, hrule⟩ := Text.exists_intercalate_around ';' t.before t.after
  let start := (t.lead?.map (· ++ [':'])).getD [] ++ (left ++ t.key)
  refine ⟨RuleParts.leadingName? (start ++ ['=']), fun value => ?_⟩
  have hchars : t.chars value = start ++ '=' :: (value ++ right) := by
    rw [chars, parts, hrule]
    simp [start]
  rw [hchars, RuleParts.leadingName?_append (by decide)]

theorem chars_of_no_lead (h : t.lead? = none) (value : List Char) :
    t.chars value = [';'].intercalate (t.parts value) := by
  rw [chars, h]
  rfl

theorem cut?_chars (hvalue : ':' ∉ value) :
    Text.cut? (· == ':') (t.chars value) =
      t.lead?.map fun lead => (lead, [';'].intercalate (t.parts value)) := by
  cases hlead : t.lead? with
  | none =>
    rw [t.chars_of_no_lead hlead]
    refine Text.cut?_of_not_mem fun hc => ?_
    rcases Text.mem_intercalate hc with hmem | ⟨part, hpart, hmem⟩
    · exact absurd hmem (by decide)
    · exact t.not_mem_part (by decide) (t.no_colon hlead) hvalue part hpart hmem
  | some lead =>
    have hchars : t.chars value = lead ++ ':' :: [';'].intercalate (t.parts value) := by
      rw [chars, hlead]
      simp
    rw [hchars]
    exact Text.cut?_append_of_not_mem (t.no_colon_lead lead hlead) _

theorem body_chars_cases :
    (∃ reason, ∀ value, ':' ∉ value → RuleParts.body (t.chars value) = .error reason) ∨
      (∀ value, ':' ∉ value → RuleParts.body (t.chars value) = .ok []) ∨
      ∀ value, ':' ∉ value →
        RuleParts.body (t.chars value) = .ok ([';'].intercalate (t.parts value)) := by
  obtain ⟨name?, hname⟩ := t.exists_leadingName?
  cases name? with
  | none =>
    -- no name leads the rule, and what stands before the colon plays no part
    refine Or.inr (Or.inr fun value hvalue => ?_)
    simp only [RuleParts.body, hname, t.cut?_chars hvalue]
    cases hlead : t.lead? with
    | none => rw [t.chars_of_no_lead hlead]; rfl
    | some lead => rfl
  | some name =>
    cases hproperty : Property.all.find? fun p => p.name.toList == name with
    | none =>
      refine Or.inl ⟨.unknownProperty (String.ofList name), fun value _ => ?_⟩
      simp only [RuleParts.body, hname, hproperty]
    | some property =>
      cases hlead : t.lead? with
      | none =>
        have hbody (value : List Char) (hvalue : ':' ∉ value) : RuleParts.body (t.chars value) =
            .ok (if property = .rrule then [';'].intercalate (t.parts value) else []) := by
          have hcut := t.cut?_chars hvalue
          rw [hlead] at hcut
          simp only [RuleParts.body, hname, hproperty, hcut, Option.map_none]
          rw [t.chars_of_no_lead hlead]
        by_cases hrrule : property = .rrule
        · exact Or.inr (Or.inr fun value hvalue => by rw [hbody value hvalue, if_pos hrrule])
        · exact Or.inr (Or.inl fun value hvalue => by rw [hbody value hvalue, if_neg hrrule])
      | some lead =>
        have hbody (value : List Char) (hvalue : ':' ∉ value) : RuleParts.body (t.chars value) =
            if lead.drop (name.length + 1) = [] then .ok ([';'].intercalate (t.parts value))
            else .error (.parametersPresent (String.ofList (lead.drop (name.length + 1)))) := by
          have hcut := t.cut?_chars hvalue
          rw [hlead] at hcut
          simp only [RuleParts.body, hname, hproperty, hcut, Option.map_some]
        by_cases hnone : lead.drop (name.length + 1) = []
        · exact Or.inr (Or.inr fun value hvalue => by rw [hbody value hvalue, if_pos hnone])
        · exact Or.inl ⟨_, fun value hvalue => by rw [hbody value hvalue, if_neg hnone]⟩

end EndingText

namespace RuleParts

theorem readPairs_append (before : List (RuleKey × List Char)) (ps qs : List (List Char)) :
    readPairs before (ps ++ qs) = readPairs before ps >>= fun read => readPairs read qs := by
  induction ps generalizing before with
  | nil => rfl
  | cons p ps ih =>
    rw [List.cons_append, readPairs, readPairs]
    split
    · exact ih before
    · split
      · rfl
      · split
        · rfl
        · split
          · rfl
          · exact ih _

theorem exists_readPairs (keys : List RuleKey) (ps : List (List Char)) :
    ∃ more : Except RuleError (List (RuleKey × List Char)),
      ∀ before, before.map Prod.fst = keys → readPairs before ps = more.map (before ++ ·) := by
  induction ps generalizing keys with
  | nil =>
    refine ⟨.ok [], fun before _ => ?_⟩
    rw [Except.map, List.append_nil]
    rfl
  | cons p ps ih =>
    by_cases hp : p = []
    · obtain ⟨more, hmore⟩ := ih keys
      refine ⟨more, fun before hkeys => ?_⟩
      rw [readPairs, if_pos hp, hmore before hkeys]
    · cases hcut : Text.cut? (· == '=') p with
      | none =>
        refine ⟨.error (.notKeyAndValue (String.ofList p)), fun before _ => ?_⟩
        simp only [readPairs, if_neg hp, hcut]
        rfl
      | some pair =>
        obtain ⟨name, value⟩ := pair
        cases hkey : RuleKey.ofName? name with
        | none =>
          refine ⟨.error (.unknownKey (String.ofList name)), fun before _ => ?_⟩
          simp only [readPairs, if_neg hp, hcut, hkey]
          rfl
        | some key =>
          have hseen (before : List (RuleKey × List Char)) (hkeys : before.map Prod.fst = keys) :
              (before.lookup key).isSome ↔ key ∈ keys := by
            rw [List.lookup_isSome_iff, ← hkeys, List.mem_map]
            refine exists_congr fun pair => and_congr_right fun _ => ?_
            rw [beq_iff_eq, eq_comm]
          -- a key that was there before is refused, and a new one counts from here on
          by_cases hmem : key ∈ keys
          · refine ⟨.error (.repeatedKey (String.ofList name)), fun before hkeys => ?_⟩
            simp only [readPairs, if_neg hp, hcut, hkey, (hseen before hkeys).2 hmem, if_true]
            rfl
          · obtain ⟨more, hmore⟩ := ih (keys ++ [key])
            refine ⟨more.map ((key, value) :: ·), fun before hkeys => ?_⟩
            have hnew : ¬(before.lookup key).isSome = true := mt (hseen before hkeys).1 hmem
            simp only [readPairs, if_neg hp, hcut, hkey, if_neg hnew]
            rw [hmore _ (by rw [List.map_append, hkeys]; rfl)]
            cases more with
            | error reason => rfl
            | ok others => simp [Except.map]

end RuleParts

namespace EndingText

variable (t : EndingText)

theorem readPairs_parts_cases :
    (∃ reason, ∀ value, RuleParts.readPairs [] (t.parts value) = .error reason) ∨
      ∃ xs ys, xs.lookup .finish = none ∧
        ∀ value, RuleParts.readPairs [] (t.parts value) = .ok (xs ++ (.finish, value) :: ys) := by
  have hpart (value : List Char) :
      t.key ++ '=' :: value ≠ [] ∧
        Text.cut? (· == '=') (t.key ++ '=' :: value) = some (t.key, value) :=
    ⟨List.append_ne_nil_of_right_ne_nil _ (List.cons_ne_nil _ _),
      Text.cut?_append_of_not_mem (t.not_mem_key (by decide)) value⟩
  simp only [parts, RuleParts.readPairs_append]
  cases RuleParts.readPairs [] t.before with
  | error reason => exact Or.inl ⟨reason, fun _ => rfl⟩
  | ok xs =>
    simp only [bind, Except.bind, RuleParts.readPairs, if_neg (hpart _).1, (hpart _).2,
      t.ofName?_key]
    by_cases hseen : (xs.lookup RuleKey.finish).isSome = true
    · exact Or.inl ⟨_, fun value => if_pos hseen⟩
    · simp only [if_neg hseen]
      obtain ⟨more, hmore⟩ :=
        RuleParts.exists_readPairs (xs.map Prod.fst ++ [.finish]) t.after
      simp only [fun value => hmore (xs ++ [(.finish, value)]) (by simp)]
      cases more with
      | error reason => exact Or.inl ⟨reason, fun _ => rfl⟩
      | ok ys =>
        refine Or.inr ⟨xs, ys, Option.not_isSome_iff_eq_none.1 hseen, fun value => ?_⟩
        simp [Except.map]

end EndingText

namespace RuleParts

theorem ofPairs_eq_map {pairs pairs' : List (RuleKey × List Char)} {e e' : RuleEnd}
    (hothers : ∀ key, key ≠ .finish → pairs'.lookup key = pairs.lookup key)
    (hend : readEnd pairs = .ok (some e)) (hend' : readEnd pairs' = .ok (some e')) :
    ofPairs pairs' = (ofPairs pairs).map fun p => { p with ending? := some e' } := by
  have hfrequency : readFrequency pairs' = readFrequency pairs := by
    rw [readFrequency, readFrequency, hothers _ (by decide)]
  have hinterval : readInterval pairs' = readInterval pairs := by
    rw [readInterval, readInterval, hothers _ (by decide)]
  have hcount : readCount pairs' = readCount pairs := by
    rw [readCount, readCount, hothers _ (by decide)]
  have hweekStart : readWeekStart pairs' = readWeekStart pairs := by
    rw [readWeekStart, readWeekStart, hothers _ (by decide)]
  have hlist (part : ListPart) : readList pairs' part = readList pairs part := by
    rw [readList, readList, hothers _ (by simp)]
  have hweekdays : readWeekdays pairs' = readWeekdays pairs := by
    rw [readWeekdays, readWeekdays, hothers _ (by simp)]
  simp only [ofPairs, map_bind, hfrequency, hinterval, hcount, hweekStart, hlist, hweekdays, hend,
    hend']
  rfl

theorem ending?_of_ofPairs {pairs : List (RuleKey × List Char)} {e : RuleEnd} {p : RuleParts}
    (hend : readEnd pairs = .ok (some e)) (h : ofPairs pairs = .ok p) : p.ending? = some e := by
  have hsame := ofPairs_eq_map (fun _ _ => rfl) hend hend
  rw [h] at hsame
  rw [Except.ok.inj hsame]

theorem parse_of_readPairs {text : String} {cs : List Char} {pairs : List (RuleKey × List Char)}
    (hbody : body text.toList = .ok cs) (hpairs : readPairs [] (cs.splitOn ';') = .ok pairs) :
    parse text = ofPairs pairs := by
  simp only [parse, hbody, hpairs]

end RuleParts

namespace EndingText

variable (t : EndingText)

theorem parse_text_cases :
    (∃ reason, ∀ value e, RuleParts.readEnd? value = some e →
      RuleParts.parse (t.text value) = .error (.refused reason)) ∨
      ∃ xs ys, xs.lookup .finish = none ∧ ∀ value e, RuleParts.readEnd? value = some e →
        RuleParts.parse (t.text value) = RuleParts.ofPairs (xs ++ (.finish, value) :: ys) := by
  have hplain {value : List Char} {e : RuleEnd} (h : RuleParts.readEnd? value = some e) {c : Char}
      (hc : c ∈ [';', ':']) : c ∉ value := by
    intro hmem
    have hother : ¬(c.isDigit = true ∨ c = 'T' ∨ c = 'Z') := by
      rcases List.mem_cons.1 hc with rfl | hc
      · decide
      · obtain rfl := List.mem_singleton.1 hc
        decide
    exact hother (RuleParts.mem_of_readEnd? h hmem)
  rcases t.body_chars_cases with ⟨reason, hbody⟩ | hbody | hbody
  · refine Or.inl ⟨reason, fun value e h => ?_⟩
    simp only [RuleParts.parse, text, String.toList_ofList, hbody value (hplain h (by decide))]
  · -- the name of another property stands before the rule and leaves nothing of it
    refine Or.inl ⟨.missingFrequency, fun value e h => ?_⟩
    have hempty : RuleParts.body (t.text value).toList = .ok [] := by
      rw [text, String.toList_ofList, hbody value (hplain h (by decide))]
    rw [RuleParts.parse_of_readPairs hempty rfl]
    rfl
  · have hsplit {value : List Char} {e : RuleEnd} (h : RuleParts.readEnd? value = some e) :=
      t.splitOn_parts (hplain h (c := ';') (by decide))
    have hbody {value : List Char} {e : RuleEnd} (h : RuleParts.readEnd? value = some e) :
        RuleParts.body (t.text value).toList = .ok ([';'].intercalate (t.parts value)) := by
      rw [text, String.toList_ofList, hbody value (hplain h (by decide))]
    rcases t.readPairs_parts_cases with ⟨reason, hpairs⟩ | ⟨xs, ys, hxs, hpairs⟩
    · refine Or.inl ⟨reason, fun value e h => ?_⟩
      simp only [RuleParts.parse, hbody h, hsplit h, hpairs]
    · refine Or.inr ⟨xs, ys, hxs, fun value e h => ?_⟩
      exact RuleParts.parse_of_readPairs (hbody h) (by rw [hsplit h, hpairs])

variable {value value' : List Char} {e e' : RuleEnd}

theorem readEnd_of_lookup {xs ys : List (RuleKey × List Char)} (hxs : xs.lookup .finish = none)
    (h : RuleParts.readEnd? value = some e) :
    RuleParts.readEnd (xs ++ (.finish, value) :: ys) = .ok (some e) := by
  rw [RuleParts.readEnd, List.lookup_append, hxs, Option.none_or, List.lookup_cons_self]
  simp only [h]

theorem parse_text (h : RuleParts.readEnd? value = some e)
    (h' : RuleParts.readEnd? value' = some e') :
    RuleParts.parse (t.text value') =
      (RuleParts.parse (t.text value)).map fun p => { p with ending? := some e' } := by
  rcases t.parse_text_cases with ⟨reason, hparse⟩ | ⟨xs, ys, hxs, hparse⟩
  · rw [hparse _ _ h, hparse _ _ h']
    rfl
  · rw [hparse _ _ h, hparse _ _ h']
    apply RuleParts.ofPairs_eq_map _ (readEnd_of_lookup hxs h) (readEnd_of_lookup hxs h')
    intro key hkey
    have hne : (key == RuleKey.finish) = false := by simpa using hkey
    rw [List.lookup_append, List.lookup_append, List.lookup_cons, List.lookup_cons, hne]

theorem ending?_of_parse (h : RuleParts.readEnd? value = some e) {p : RuleParts}
    (hp : RuleParts.parse (t.text value) = .ok p) : p.ending? = some e := by
  rcases t.parse_text_cases with ⟨reason, hparse⟩ | ⟨xs, ys, hxs, hparse⟩
  · rw [hparse _ _ h] at hp
    exact nomatch hp
  · rw [hparse _ _ h] at hp
    exact RuleParts.ending?_of_ofPairs (readEnd_of_lookup hxs h) hp

end EndingText

end Almanac
