import Almanac.Proofs.Line.Grammar
import Mathlib.Data.List.TakeWhile

/-! Why a line is refused, and where. A line must have a colon outside quotes, a name before it, and
well-formed parameters between the two; the first of these that it has not got is what is reported,
at the place where it is missing: `parse_eq_error_iff`. -/

namespace Almanac

/-- The fault of the text that stands behind `ahead` on its line. -/
def LineError.behind (fault : LineFault) (number : Nat) (ahead : List Char)
    (context : Option String := none) : LineError where
  fault
  line := number
  column := Text.byteLength ahead + 1
  context

namespace ContentLine

/-- Every colon stands between quotes: the quotes before it are odd in number. -/
def NoColon (cs : List Char) : Prop :=
  ∀ before after, cs = before ++ ':' :: after → before.count '"' % 2 = 1

/-- The text is no name, for the character behind `before`. -/
def BreaksAfter (before name : List Char) : Prop :=
  (∀ a ∈ before, isNameChar a = true) ∧
    ∃ c after, name = before ++ c :: after ∧ isNameChar c = false

/-- Why a parameter is refused, and what of it stands ahead of the place that is reported. -/
inductive ParameterFault (segment : List Char) : List Char → Option String → Prop
  | noEquals (noEquals : '=' ∉ segment) : ParameterFault segment [] none
  | noName {values : List Char} (segment_eq : segment = '=' :: values) :
      ParameterFault segment [] none
  | badName {name values before : List Char} (segment_eq : segment = name ++ '=' :: values)
      (noEquals : '=' ∉ name) (breaks : BreaksAfter before name) :
      ParameterFault segment before none
  /-- The first value that is spelled neither with quotes around it nor without. -/
  | badValue {name : WrittenName} {earlier later : List (List Char)} {raw ahead : List Char}
      (segment_eq : segment = name.chars ++ '=' :: [','].intercalate (earlier ++ raw :: later))
      (hides : ∀ piece ∈ earlier ++ raw :: later, Hides ',' false piece)
      (passed : ∀ piece ∈ earlier, ∃ v : WrittenValue, v.chars = piece)
      (noValue : ∀ v : WrittenValue, v.chars ≠ raw)
      (place : segment = ahead ++ [','].intercalate (raw :: later)) :
      ParameterFault segment ahead (some ("malformed value `" ++ String.ofList raw ++ "`"))

/-- Why a line is refused, and what is reported. -/
inductive Refusal (line : List Char) (number : Nat) : LineError → Prop
  /-- The last quote of all is the one that is open. -/
  | unclosedQuote {before after : List Char} (noColon : NoColon line)
      (odd : line.count '"' % 2 = 1) (line_eq : line = before ++ '"' :: after)
      (last : '"' ∉ after) : Refusal line number (.behind .unclosedQuote number before)
  | missingColon (noColon : NoColon line) (even : line.count '"' % 2 = 0) :
      Refusal line number {
        fault := .missingColon
        line := number
        column := Text.byteLength line }
  | missingName {segments : List (List Char)} {value : List Char}
      (cut : LineCut line [] segments value) :
      Refusal line number (.behind .missingPropertyName number [])
  | badName {name before value : List Char} {segments : List (List Char)}
      (cut : LineCut line name segments value) (breaks : BreaksAfter before name) :
      Refusal line number (.behind .invalidPropertyName number before)
  /-- The first parameter that is not as it must be. -/
  | badParameter {name : WrittenName} {earlier later : List (List Char)}
      {segment value ahead inside : List Char} {context : Option String}
      (cut : LineCut line name.chars (earlier ++ segment :: later) value)
      (passed : ∀ piece ∈ earlier, ∃ p : WrittenParameter, p.chars = piece)
      (fault : ParameterFault segment inside context)
      (place : line = ahead ++ [';'].intercalate (segment :: later) ++ ':' :: value) :
      Refusal line number (.behind .invalidParameter number (ahead ++ inside) context)

/-! The search for the colon. It keeps the offset of the quote that is open. -/

section Search

variable {quote : Option Nat} {offset : Nat} {cs : List Char}

def openQuote (quote : Option Nat) (offset : Nat) : List Char → Option Nat
  | [] => quote
  | c :: cs => openQuote (quoteAfter quote offset c) (offset + c.utf8Size) cs

theorem openQuote_append (quote : Option Nat) (offset : Nat) (as bs : List Char) :
    openQuote quote offset (as ++ bs) =
      openQuote (openQuote quote offset as) (offset + Text.byteLength as) bs := by
  induction as generalizing quote offset with
  | nil => rfl
  | cons a as ih =>
    rw [List.cons_append, openQuote, openQuote, ih, Text.byteLength_cons, Nat.add_assoc]

theorem openQuote_of_not_mem (h : '"' ∉ cs) : openQuote quote offset cs = quote := by
  induction cs generalizing offset with
  | nil => rfl
  | cons c cs ih =>
    obtain ⟨hc, hcs⟩ := not_or.1 (mt List.mem_cons.2 h)
    have hsame : quoteAfter quote offset c = quote := if_neg (Ne.symm hc)
    rw [openQuote, hsame, ih hcs]

theorem quotes_cons (quote : Option Nat) (offset : Nat) (c : Char) (cs : List Char) :
    ((quoteAfter quote offset c).isSome.toNat + cs.count '"') % 2 =
      (quote.isSome.toNat + (c :: cs).count '"') % 2 := by
  rw [isSome_quoteAfter, List.count_cons]
  cases quote.isSome <;> cases c == '"' <;> simp <;> omega

theorem isSome_openQuote (quote : Option Nat) (offset : Nat) (cs : List Char) :
    (openQuote quote offset cs).isSome = true ↔
      (quote.isSome.toNat + cs.count '"') % 2 = 1 := by
  induction cs generalizing quote offset with
  | nil => cases quote <;> simp [openQuote]
  | cons c cs ih => rw [openQuote, ih, quotes_cons]

theorem cutHead_eq_error_iff {found : Option Nat} :
    cutHead quote offset cs = .error found ↔
      (∀ before after, cs = before ++ ':' :: after →
        (quote.isSome.toNat + before.count '"') % 2 = 1) ∧
      openQuote quote offset cs = found := by
  induction cs generalizing quote offset with
  | nil => simp [cutHead, openQuote]
  | cons c cs ih =>
    by_cases hend : c = ':' ∧ quote = none
    · obtain ⟨rfl, rfl⟩ := hend
      refine iff_of_false (by simp [cutHead]) fun h => ?_
      exact absurd (h.1 [] cs rfl) (by decide)
    · rw [cutHead_cons hend, map_eq_error_iff, ih, openQuote]
      refine and_congr_left fun _ => ?_
      constructor
      · rintro h (- | ⟨b, before⟩) after heq
        · -- a colon that stands first is hidden by the quote that is open
          obtain ⟨rfl, -⟩ := List.cons.inj heq
          cases quote with
          | none => exact absurd ⟨rfl, rfl⟩ hend
          | some _ => rfl
        · obtain ⟨rfl, rfl⟩ := List.cons.inj heq
          rw [← quotes_cons quote offset]
          exact h before after rfl
      · rintro h before after rfl
        rw [quotes_cons]
        exact h (c :: before) after rfl

theorem exists_last_quote (h : '"' ∈ cs) :
    ∃ before after, cs = before ++ '"' :: after ∧ '"' ∉ after := by
  obtain ⟨after, before, hreverse, hlast⟩ := List.eq_append_cons_of_mem (List.mem_reverse.2 h)
  refine ⟨before.reverse, after.reverse, ?_, mt List.mem_reverse.1 hlast⟩
  rw [← List.reverse_inj, hreverse]
  simp

theorem openQuote_of_last {before after : List Char}
    (hodd : (before ++ '"' :: after).count '"' % 2 = 1) (hlast : '"' ∉ after) :
    openQuote none 0 (before ++ '"' :: after) = some (Text.byteLength before) := by
  -- a quote is open at the end, and the last one opens it or closes another
  have hopen : (openQuote none 0 (before ++ '"' :: after)).isSome = true := by
    rw [isSome_openQuote]
    simpa using hodd
  rw [openQuote_append, openQuote, openQuote_of_not_mem hlast, Nat.zero_add] at hopen ⊢
  cases hbefore : openQuote none 0 before with
  | none => rfl
  | some _ =>
    rw [hbefore] at hopen
    exact nomatch hopen

theorem openQuote_eq_none_iff : openQuote none 0 cs = none ↔ cs.count '"' % 2 = 0 := by
  rw [← Option.not_isSome_iff_eq_none, isSome_openQuote]
  simp only [Option.isSome_none, Bool.toNat_false, Nat.zero_add]
  omega

theorem openQuote_eq_some_iff {place : Nat} :
    openQuote none 0 cs = some place ↔ cs.count '"' % 2 = 1 ∧
      ∃ before after, cs = before ++ '"' :: after ∧ '"' ∉ after ∧
        Text.byteLength before = place := by
  constructor
  · intro h
    have hodd : cs.count '"' % 2 = 1 := by
      simpa using (isSome_openQuote none 0 cs).1 (Option.isSome_of_eq_some h)
    have hmem : '"' ∈ cs := by
      rw [← List.count_pos_iff]
      omega
    obtain ⟨before, after, rfl, hlast⟩ := exists_last_quote hmem
    refine ⟨hodd, before, after, rfl, hlast, ?_⟩
    exact Option.some.inj ((openQuote_of_last hodd hlast).symm.trans h)
  · rintro ⟨hodd, before, after, rfl, hlast, rfl⟩
    exact openQuote_of_last hodd hlast

theorem cutHead_start_eq_error_iff {found : Option Nat} :
    cutHead none 0 cs = .error found ↔ NoColon cs ∧ openQuote none 0 cs = found := by
  rw [cutHead_eq_error_iff]
  simp only [Option.isSome_none, Bool.toNat_false, Nat.zero_add]
  rfl

end Search

/-! The name and the parameters. -/

theorem BreaksAfter.ne_nil {before name : List Char} (h : BreaksAfter before name) :
    name ≠ [] := by
  obtain ⟨-, c, after, rfl, -⟩ := h
  exact List.append_ne_nil_of_right_ne_nil _ (List.cons_ne_nil _ _)

theorem badNameOffset?_eq_some_iff {name : List Char} {offset : Nat} :
    badNameOffset? name = some offset ↔
      ∃ before, BreaksAfter before name ∧ Text.byteLength before = offset := by
  unfold badNameOffset?
  constructor
  · intro h
    split at h
    · exact nomatch h
    · next hall =>
      refine ⟨_, ⟨fun a ha => List.mem_takeWhile_imp ha, ?_⟩, Option.some.inj h⟩
      have hrest : name.dropWhile isNameChar ≠ [] := by
        intro hnil
        exact hall (List.all_eq_true.2 (List.dropWhile_eq_nil_iff.1 hnil))
      refine ⟨(name.dropWhile isNameChar).head hrest, (name.dropWhile isNameChar).tail, ?_, ?_⟩
      · rw [List.cons_head_tail, List.takeWhile_append_dropWhile]
      · exact List.head_dropWhile_not isNameChar hrest
  · rintro ⟨before, ⟨hbefore, c, after, rfl, hc⟩, rfl⟩
    have hall : ¬((before ++ c :: after).all isNameChar = true) := by simp [hc]
    rw [if_neg hall, List.takeWhile_append_of_pos hbefore,
      List.takeWhile_cons_of_neg (Bool.not_eq_true _ ▸ hc), List.append_nil]

variable {number : Nat} {e : LineError} {ahead : List Char}

theorem exists_first_cons_iff {passes : List Char → Prop}
    {fails : List (List Char) → List Char → Prop} {piece : List Char} {pieces : List (List Char)} :
    (∃ earlier raw later, piece :: pieces = earlier ++ raw :: later ∧
        (∀ p ∈ earlier, passes p) ∧ fails earlier raw) ↔
      fails [] piece ∨ passes piece ∧ ∃ earlier raw later, pieces = earlier ++ raw :: later ∧
        (∀ p ∈ earlier, passes p) ∧ fails (piece :: earlier) raw := by
  constructor
  · rintro ⟨- | ⟨first, earlier⟩, raw, later, heq, hpasses, hfails⟩
    · obtain ⟨rfl, -⟩ := List.cons.inj heq
      exact Or.inl hfails
    · obtain ⟨rfl, rfl⟩ := List.cons.inj heq
      obtain ⟨hfirst, hearlier⟩ := List.forall_mem_cons.1 hpasses
      exact Or.inr ⟨hfirst, earlier, raw, later, rfl, hearlier, hfails⟩
  · rintro (hfails | ⟨hfirst, earlier, raw, later, rfl, hearlier, hfails⟩)
    · exact ⟨[], piece, pieces, rfl, List.forall_mem_nil _, hfails⟩
    · exact ⟨piece :: earlier, raw, later, rfl, List.forall_mem_cons.2 ⟨hfirst, hearlier⟩, hfails⟩

theorem readValues_eq_error_iff {pieces : List (List Char)} {bad : Nat × List Char} :
    readValues (withOffsets (Text.byteLength ahead) pieces) = .error bad ↔
      ∃ earlier raw later, pieces = earlier ++ raw :: later ∧
        (∀ piece ∈ earlier, (readValue? piece).isSome = true) ∧ readValue? raw = none ∧
        (Text.byteLength (ahead ++ terminated ',' earlier), raw) = bad := by
  induction pieces generalizing ahead with
  | nil => simp [withOffsets, readValues]
  | cons piece pieces ih =>
    rw [exists_first_cons_iff, withOffsets_cons (rfl : Char.utf8Size ',' = 1), readValues]
    cases hread : readValue? piece with
    | none => simp [terminated]
    | some value =>
      simp only [map_eq_error_iff, ih, append_terminated_cons, Option.isSome_some, reduceCtorEq,
        false_and, true_and, false_or]

theorem isSome_readValue?_iff {raw : List Char}
    (h : ∀ separator ∈ [';', ':', ','], Hides separator false raw) :
    (readValue? raw).isSome = true ↔ ∃ v : WrittenValue, v.chars = raw := by
  simp [Option.isSome_iff_exists, readValue?_eq_some_iff h]

theorem readValue?_eq_none_iff {raw : List Char}
    (h : ∀ separator ∈ [';', ':', ','], Hides separator false raw) :
    readValue? raw = none ↔ ∀ v : WrittenValue, v.chars ≠ raw := by
  rw [← Option.not_isSome_iff_eq_none, isSome_readValue?_iff h, not_exists]

section Parameters

variable {segment inside : List Char} {context : Option String}

theorem readParameter_assignment_eq_error_iff (n : WrittenName) (rest : List Char) :
    readParameter number (Text.byteLength ahead) (n.chars ++ '=' :: rest) = .error e ↔
      ∃ bad raw, readValues (withOffsets (Text.byteLength (ahead ++ n.chars ++ ['=']))
          (splitUnquoted ',' false rest)) = .error (bad, raw) ∧
        { fault := .invalidParameter
          line := number
          column := bad + 1
          context := some ("malformed value `" ++ String.ofList raw ++ "`") } = e := by
  have hstart : Text.byteLength (ahead ++ n.chars ++ ['=']) =
      Text.byteLength ahead + Text.byteLength n.chars + 1 := by
    simp only [Text.byteLength_append]
    rfl
  simp only [readParameter, n.cut?_append, if_neg n.chars_ne_nil, n.badNameOffset?, hstart]
  cases readValues _ with
  | ok values => simp
  | error piece => simp [Prod.ext_iff, and_assoc]

theorem readParameter_of_fault (h : ∀ separator ∈ [';', ':'], Hides separator false segment)
    (hfault : ParameterFault segment inside context) :
    readParameter number (Text.byteLength ahead) segment =
      .error (.behind .invalidParameter number (ahead ++ inside) context) := by
  cases hfault with
  | noEquals noEquals => simp [readParameter, Text.cut?_of_not_mem noEquals, LineError.behind]
  | noName segment_eq => simp [readParameter, segment_eq, Text.cut?, LineError.behind]
  | @badName name values _ segment_eq noEquals breaks =>
    have hcut : Text.cut? (· == '=') segment = some (name, values) := by
      rw [segment_eq, Text.cut?_append_of_not_mem noEquals]
    have hbad : badNameOffset? name = some (Text.byteLength inside) :=
      badNameOffset?_eq_some_iff.2 ⟨inside, breaks, rfl⟩
    simp only [readParameter, hcut, if_neg breaks.ne_nil, hbad, LineError.behind,
      Text.byteLength_append]
  | @badValue n earlier later raw _ segment_eq hides passed noValue place =>
    subst segment_eq
    have hsplit : splitUnquoted ',' false ([','].intercalate (earlier ++ raw :: later)) =
        earlier ++ raw :: later :=
      splitUnquoted_intercalate (by decide)
        (List.append_ne_nil_of_right_ne_nil _ (List.cons_ne_nil _ _)) hides
    obtain ⟨-, hpieces⟩ := WrittenParameter.hides_pieces n h
    rw [hsplit, List.forall_mem_append, List.forall_mem_cons] at hpieces
    -- what stands ahead of the value is known from what follows it
    have hinside : inside = n.chars ++ ['='] ++ terminated ',' earlier := by
      rw [intercalate_append_cons] at place
      refine List.append_cancel_right (place.symm.trans ?_)
      simp
    have hread : readValues (withOffsets (Text.byteLength (ahead ++ n.chars ++ ['=']))
        (earlier ++ raw :: later)) = .error (Text.byteLength (ahead ++ inside), raw) := by
      refine readValues_eq_error_iff.2 ⟨earlier, raw, later, rfl, ?_, ?_, ?_⟩
      · intro piece hpiece
        exact (isSome_readValue?_iff (hpieces.1 piece hpiece)).2 (passed piece hpiece)
      · exact (readValue?_eq_none_iff hpieces.2.1).2 noValue
      · simp [hinside]
    refine (readParameter_assignment_eq_error_iff n _).2 ⟨_, raw, ?_, rfl⟩
    rw [hsplit, hread]

theorem exists_badValue (n : WrittenName) {rest : List Char}
    (h : ∀ separator ∈ [';', ':'], Hides separator false (n.chars ++ '=' :: rest))
    (herror : readParameter number (Text.byteLength ahead) (n.chars ++ '=' :: rest) = .error e) :
    ∃ inside context, ParameterFault (n.chars ++ '=' :: rest) inside context := by
  obtain ⟨hclosed, hpieces⟩ := WrittenParameter.hides_pieces n h
  obtain ⟨_, _, hvalues, -⟩ := (readParameter_assignment_eq_error_iff n rest).1 herror
  obtain ⟨earlier, raw, later, hsplit, hpassed, hnone, -⟩ := readValues_eq_error_iff.1 hvalues
  have hrest : rest = [','].intercalate (earlier ++ raw :: later) := by
    rw [← hsplit, intercalate_splitUnquoted (by decide) hclosed]
  rw [hsplit] at hpieces
  obtain ⟨hearlier, hlater⟩ := List.forall_mem_append.1 hpieces
  have hraw := (List.forall_mem_cons.1 hlater).1
  refine ⟨n.chars ++ ['='] ++ terminated ',' earlier, _,
    .badValue (congrArg (n.chars ++ '=' :: ·) hrest) ?_ ?_ ?_ ?_⟩
  · exact fun piece hpiece => hpieces piece hpiece ',' (by decide)
  · exact fun piece hpiece =>
      (isSome_readValue?_iff (hearlier piece hpiece)).1 (hpassed piece hpiece)
  · exact (readValue?_eq_none_iff hraw).1 hnone
  · rw [hrest, intercalate_append_cons]
    simp

theorem exists_fault_of_readParameter
    (h : ∀ separator ∈ [';', ':'], Hides separator false segment)
    (herror : readParameter number (Text.byteLength ahead) segment = .error e) :
    ∃ inside context, ParameterFault segment inside context := by
  by_cases hmem : '=' ∈ segment
  · obtain ⟨name, rest, rfl, hequals⟩ := List.eq_append_cons_of_mem hmem
    by_cases hname : name = []
    · subst hname
      exact ⟨_, _, .noName rfl⟩
    · cases hbad : badNameOffset? name with
      | some bad =>
        obtain ⟨before, hbreaks, -⟩ := badNameOffset?_eq_some_iff.1 hbad
        exact ⟨_, _, .badName rfl hequals hbreaks⟩
      | none => exact exists_badValue ⟨name, hname, badNameOffset?_eq_none_iff.1 hbad⟩ h herror
  · exact ⟨_, _, .noEquals hmem⟩

theorem readParameter_eq_error_iff
    (h : ∀ separator ∈ [';', ':'], Hides separator false segment) :
    readParameter number (Text.byteLength ahead) segment = .error e ↔
      ∃ inside context, ParameterFault segment inside context ∧
        .behind .invalidParameter number (ahead ++ inside) context = e := by
  constructor
  · intro herror
    obtain ⟨inside, context, hfault⟩ := exists_fault_of_readParameter h herror
    refine ⟨inside, context, hfault, ?_⟩
    exact Except.error.inj ((readParameter_of_fault h hfault).symm.trans herror)
  · rintro ⟨inside, context, hfault, rfl⟩
    exact readParameter_of_fault h hfault

theorem readParameters_eq_error_iff {segments : List (List Char)}
    (h : ∀ segment ∈ segments, ∀ separator ∈ [';', ':'], Hides separator false segment) :
    readParameters number (withOffsets (Text.byteLength ahead) segments) = .error e ↔
      ∃ earlier segment later, segments = earlier ++ segment :: later ∧
        (∀ piece ∈ earlier, ∃ p : WrittenParameter, p.chars = piece) ∧
        ∃ inside context, ParameterFault segment inside context ∧
          .behind .invalidParameter number (ahead ++ terminated ';' earlier ++ inside) context =
            e := by
  induction segments generalizing ahead with
  | nil => simp [withOffsets, readParameters]
  | cons segment segments ih =>
    obtain ⟨hsegment, hsegments⟩ := List.forall_mem_cons.1 h
    have hnil : ahead ++ terminated ';' [] = ahead := List.append_nil ahead
    rw [exists_first_cons_iff, hnil, ← readParameter_eq_error_iff hsegment,
      withOffsets_cons (rfl : Char.utf8Size ';' = 1), readParameters, bind_eq_error_iff]
    refine or_congr_right ?_
    simp only [bind_eq_error_iff, readParameter_eq_ok_iff hsegment, ih hsegments,
      append_terminated_cons, pure, Except.pure, reduceCtorEq, and_false, exists_false, or_false]
    constructor
    · rintro ⟨_, ⟨p, hp, -⟩, hlater⟩
      exact ⟨⟨p, hp⟩, hlater⟩
    · rintro ⟨⟨p, hp⟩, hlater⟩
      exact ⟨p.meaning, ⟨p, hp, rfl⟩, hlater⟩

theorem ParameterFault.exists_rest (h : ParameterFault segment inside context) :
    ∃ rest, segment = inside ++ rest := by
  cases h with
  | noEquals noEquals => exact ⟨segment, rfl⟩
  | noName segment_eq => exact ⟨segment, rfl⟩
  | badName segment_eq noEquals breaks =>
    obtain ⟨-, c, after, rfl, -⟩ := breaks
    rw [segment_eq, List.append_assoc]
    exact ⟨_, rfl⟩
  | badValue segment_eq hides passed noValue place => exact ⟨_, place⟩

end Parameters

section Lines

variable {text : String} {name value : List Char} {segments : List (List Char)}

theorem LineCut.refused_iff (h : LineCut text.toList name segments value) :
    parse text number = .error e ↔
      name = [] ∧ .behind .missingPropertyName number [] = e ∨
      (∃ before, BreaksAfter before name ∧
        .behind .invalidPropertyName number before = e) ∨
      ∃ n : WrittenName, n.chars = name ∧
        readParameters number (withOffsets (Text.byteLength (n.chars ++ [';'])) segments) =
          .error e := by
  obtain ⟨head, hcut, hsplit⟩ := lineCut_iff.1 h
  have hstart : 0 + Text.byteLength name + 1 = Text.byteLength (name ++ [';']) := by
    rw [Text.byteLength_append, Nat.zero_add]
    rfl
  simp only [parse, hcut, hsplit, withOffsets, hstart]
  constructor
  · intro herror
    split at herror
    · next hname => exact Or.inl ⟨hname, Except.error.inj herror⟩
    · next hname =>
      split at herror
      · next bad hbad =>
        obtain ⟨before, hbreaks, rfl⟩ := badNameOffset?_eq_some_iff.1 hbad
        exact Or.inr (Or.inl ⟨before, hbreaks, Except.error.inj herror⟩)
      · next hgood =>
        have hparameters := map_eq_error_iff.1 herror
        exact Or.inr (Or.inr ⟨⟨name, hname, badNameOffset?_eq_none_iff.1 hgood⟩, rfl, hparameters⟩)
  · rintro (⟨rfl, rfl⟩ | ⟨before, hbreaks, rfl⟩ | ⟨n, rfl, hparameters⟩)
    · rfl
    · rw [if_neg hbreaks.ne_nil, badNameOffset?_eq_some_iff.2 ⟨before, hbreaks, rfl⟩]
      rfl
    · rw [if_neg n.chars_ne_nil, n.badNameOffset?, hparameters]
      rfl

theorem LineCut.place_iff {name : WrittenName} {earlier later : List (List Char)}
    {line segment ahead : List Char}
    (h : LineCut line name.chars (earlier ++ segment :: later) value) :
    line = ahead ++ [';'].intercalate (segment :: later) ++ ':' :: value ↔
      ahead = name.chars ++ [';'] ++ terminated ';' earlier := by
  have hline : line = (name.chars ++ [';'] ++ terminated ';' earlier) ++
      [';'].intercalate (segment :: later) ++ ':' :: value := by
    rw [h.line_eq, intercalate_cons_of_ne_nil _
      (List.append_ne_nil_of_right_ne_nil _ (List.cons_ne_nil _ _)), intercalate_append_cons]
    simp
  conv_lhs => rw [hline, List.append_cancel_right_eq, List.append_cancel_right_eq]
  exact eq_comm

theorem hides_segments (h : LineCut text.toList name segments value) :
    ∀ segment ∈ segments, ∀ separator ∈ [';', ':'], Hides separator false segment :=
  (List.forall_mem_cons.1 h.hides).2

theorem parse_of_refusal (h : Refusal text.toList number e) : parse text number = .error e := by
  cases h with
  | unclosedQuote noColon odd line_eq last =>
    have hcut := cutHead_start_eq_error_iff.2
      ⟨noColon, openQuote_eq_some_iff.2 ⟨odd, _, _, line_eq, last, rfl⟩⟩
    simp only [parse, hcut, LineError.behind]
  | missingColon noColon even =>
    have hcut := cutHead_start_eq_error_iff.2 ⟨noColon, openQuote_eq_none_iff.2 even⟩
    simp only [parse, hcut]
  | missingName cut => exact cut.refused_iff.2 (Or.inl ⟨rfl, rfl⟩)
  | badName cut breaks => exact cut.refused_iff.2 (Or.inr (Or.inl ⟨_, breaks, rfl⟩))
  | badParameter cut passed fault place =>
    refine cut.refused_iff.2 (Or.inr (Or.inr ⟨_, rfl, ?_⟩))
    rw [cut.place_iff.1 place]
    exact (readParameters_eq_error_iff (hides_segments cut)).2
      ⟨_, _, _, rfl, passed, _, _, fault, rfl⟩

theorem refusal_of_parse (h : parse text number = .error e) : Refusal text.toList number e := by
  cases hcut : cutHead none 0 text.toList with
  | error found =>
    obtain ⟨hcolon, hquote⟩ := cutHead_start_eq_error_iff.1 hcut
    cases found with
    | none =>
      simp only [parse, hcut] at h
      rw [← Except.error.inj h]
      exact .missingColon hcolon (openQuote_eq_none_iff.1 hquote)
    | some place =>
      simp only [parse, hcut] at h
      rw [← Except.error.inj h]
      obtain ⟨hodd, before, after, hline, hlast, rfl⟩ := openQuote_eq_some_iff.1 hquote
      exact .unclosedQuote hcolon hodd hline hlast
  | ok cut =>
    obtain ⟨head, value⟩ := cut
    obtain ⟨name, segments, hsplit⟩ := exists_splitUnquoted ';' false head
    have hline : LineCut text.toList name segments value := lineCut_iff.2 ⟨head, hcut, hsplit⟩
    rcases hline.refused_iff.1 h with
      ⟨rfl, rfl⟩ | ⟨before, hbreaks, rfl⟩ | ⟨n, rfl, hparameters⟩
    · exact .missingName hline
    · exact .badName hline hbreaks
    · obtain ⟨earlier, segment, later, rfl, hpassed, inside, context, hfault, rfl⟩ :=
        (readParameters_eq_error_iff (hides_segments hline)).1 hparameters
      exact .badParameter hline hpassed hfault (hline.place_iff.2 rfl)

theorem exists_intercalate_cons (separator : Char) (piece : List Char)
    (pieces : List (List Char)) :
    ∃ rest, [separator].intercalate (piece :: pieces) = piece ++ rest := by
  cases pieces with
  | nil => exact ⟨[], by simp⟩
  | cons next others =>
    exact ⟨_, intercalate_cons_of_ne_nil piece (List.cons_ne_nil next others)⟩

theorem Refusal.place {line : List Char} (h : Refusal line number e) :
    e.fault = .missingColon ∧ e.column = Text.byteLength line ∨
      ∃ ahead c rest, line = ahead ++ c :: rest ∧ e.column = Text.byteLength ahead + 1 := by
  -- the colon at least stands behind what is ahead of the place
  have hcolon (ahead : List Char) {rest value : List Char}
      (hline : line = ahead ++ rest ++ ':' :: value) : ∃ c others, line = ahead ++ c :: others := by
    obtain ⟨c, others, hrest⟩ := List.exists_cons_of_ne_nil
      (List.append_ne_nil_of_right_ne_nil rest (List.cons_ne_nil ':' value))
    exact ⟨c, others, by rw [hline, List.append_assoc, hrest]⟩
  cases h with
  | unclosedQuote noColon odd line_eq last => exact Or.inr ⟨_, _, _, line_eq, rfl⟩
  | missingColon noColon even => exact Or.inl ⟨rfl, rfl⟩
  | missingName cut =>
    obtain ⟨c, others, hline⟩ := hcolon [] cut.line_eq
    exact Or.inr ⟨[], c, others, hline, rfl⟩
  | @badName name before _ segments cut breaks =>
    obtain ⟨-, c, after, rfl, -⟩ := breaks
    obtain ⟨rest, hname⟩ := exists_intercalate_cons ';' (before ++ c :: after) segments
    have hline := cut.line_eq
    rw [hname, List.append_assoc, List.append_assoc, List.cons_append] at hline
    exact Or.inr ⟨before, c, _, hline, rfl⟩
  | @badParameter _ _ later segment _ ahead inside _ cut passed fault place =>
    obtain ⟨behind, rfl⟩ := fault.exists_rest
    obtain ⟨rest, hsegment⟩ := exists_intercalate_cons ';' (inside ++ behind) later
    rw [hsegment, List.append_assoc inside, ← List.append_assoc ahead] at place
    obtain ⟨c, others, hline⟩ := hcolon (ahead ++ inside) place
    exact Or.inr ⟨ahead ++ inside, c, others, hline, rfl⟩

/-- A line that is not accepted is refused for one reason only, at a column of the line, and but for
want of a colon at the start of a character. -/
theorem parse_eq_error_iff (text : String) (number : Nat) :
    (∀ e, parse text number = .error e ↔ Refusal text.toList number e) ∧
      ((∀ line, parse text number ≠ .ok line) → ∃! e, Refusal text.toList number e) ∧
      ∀ e, parse text number = .error e → text ≠ "" →
        (1 ≤ e.column ∧ e.column ≤ Text.byteLength text.toList) ∧
        (e.fault ≠ .missingColon → ∃ ahead c rest, text.toList = ahead ++ c :: rest ∧
          e.column = Text.byteLength ahead + 1) := by
  refine ⟨fun e => ⟨refusal_of_parse, parse_of_refusal⟩, fun hrejected => ?_,
    fun e herror hne => ?_⟩
  · cases hparse : parse text number with
    | error e =>
      refine ⟨e, refusal_of_parse hparse, fun e' hrefusal => ?_⟩
      exact Except.error.inj ((parse_of_refusal hrefusal).symm.trans hparse)
    | ok line => exact absurd hparse (hrejected line)
  · rcases (refusal_of_parse herror).place with
      ⟨hfault, hcolumn⟩ | ⟨ahead, c, rest, hline, hcolumn⟩
    · have hlength : 0 < Text.byteLength text.toList := by
        obtain ⟨c, cs, hcons⟩ := List.exists_cons_of_ne_nil (mt String.toList_eq_nil_iff.1 hne)
        rw [hcons, Text.byteLength_cons]
        exact Nat.add_pos_left (Char.utf8Size_pos c) _
      exact ⟨by omega, fun hother => absurd hfault hother⟩
    · have hsize : 0 < c.utf8Size := Char.utf8Size_pos c
      refine ⟨?_, fun _ => ⟨ahead, c, rest, hline, hcolumn⟩⟩
      rw [hline, Text.byteLength_append, Text.byteLength_cons]
      omega

/-- The bytes of letters beyond ASCII count, and a value is refused whole. -/
theorem parse_eq_error_iff_bytes :
    let text := "RDATE;TZID=\"Zürich\",a\"b\"c:2024"
    let refusal : LineError := {
      fault := .invalidParameter
      line := 4
      column := 22
      context := some "malformed value `a\"b\"c`" }
    Refusal text.toList 4 refusal ∧ (∃! e, Refusal text.toList 4 e) ∧
      (1 ≤ refusal.column ∧ refusal.column ≤ Text.byteLength text.toList) ∧
      ∃ ahead c rest, text.toList = ahead ++ c :: rest ∧
        refusal.column = Text.byteLength ahead + 1 := by
  intro text refusal
  have hparse : parse text 4 = .error refusal := by decide +kernel
  obtain ⟨hiff, hunique, hplace⟩ := parse_eq_error_iff text 4
  obtain ⟨hbounds, hstart⟩ := hplace refusal hparse (by decide)
  refine ⟨(hiff refusal).1 hparse, hunique fun line hline => ?_, hbounds, hstart (by decide)⟩
  rw [hparse] at hline
  exact nomatch hline

end Lines

end ContentLine

end Almanac
