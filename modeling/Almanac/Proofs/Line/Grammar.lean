import Almanac.Proofs.Line.Unquoted
import Mathlib.Data.List.Basic

/-! The grammar of content lines. A `WrittenLine` is a line as it is spelled: a name, parameters with
their values, quoted or plain, and the text after the colon. A text is accepted just if it spells
such a line, it spells no other, and what is read are the parts of that line: `parse_eq_ok_iff`. -/

namespace Almanac

/-- A name is made of ASCII letters, digits and hyphens, one at least. -/
@[ext]
structure WrittenName where
  chars : List Char
  chars_ne_nil : chars ≠ []
  isNameChar : ∀ c ∈ chars, ContentLine.isNameChar c = true

/-- A value between quotes, which holds no quote, or a plain one, which holds nothing that separates
either. -/
inductive WrittenValue
  | quoted (chars : List Char) (noQuote : '"' ∉ chars)
  | plain (chars : List Char) (noMark : ∀ c ∈ chars, c ∉ ['"', ';', ':', ','])

@[ext]
structure WrittenParameter where
  name : WrittenName
  values : List WrittenValue
  values_ne_nil : values ≠ []

@[ext]
structure WrittenLine where
  name : WrittenName
  parameters : List WrittenParameter
  /-- All that follows the colon. -/
  value : List Char

namespace WrittenValue

def inner : WrittenValue → List Char
  | quoted chars _ => chars
  | plain chars _ => chars

def chars : WrittenValue → List Char
  | quoted chars _ => '"' :: (chars ++ ['"'])
  | plain chars _ => chars

/-- The value that is meant, its escapes decoded. -/
def meaning (v : WrittenValue) : String :=
  String.ofList (Caret.decode v.inner)

end WrittenValue

namespace WrittenParameter

def chars (p : WrittenParameter) : List Char :=
  p.name.chars ++ '=' :: [','].intercalate (p.values.map WrittenValue.chars)

def meaning (p : WrittenParameter) : Parameter where
  name := Text.asciiUpper (String.ofList p.name.chars)
  values := p.values.map WrittenValue.meaning

end WrittenParameter

namespace WrittenLine

def head (l : WrittenLine) : List Char :=
  [';'].intercalate (l.name.chars :: l.parameters.map WrittenParameter.chars)

def text (l : WrittenLine) : String :=
  String.ofList (l.head ++ ':' :: l.value)

def meaning (l : WrittenLine) : ContentLine where
  name := Text.asciiUpper (String.ofList l.name.chars)
  parameters := l.parameters.map WrittenParameter.meaning
  value := String.ofList l.value
  valueOffset := Text.byteLength (l.head ++ [':'])

end WrittenLine

theorem isNameChar_of_separator {c : Char} (h : c ∈ [';', ':', ',']) :
    ContentLine.isNameChar c = false ∧ c ≠ '"' ∧ c ≠ '=' := by
  rcases List.mem_cons.1 h with rfl | h
  · decide
  · rcases List.mem_cons.1 h with rfl | h
    · decide
    · obtain rfl := List.mem_singleton.1 h
      decide

namespace WrittenName

theorem not_mem {c : Char} (hc : ContentLine.isNameChar c = false) (n : WrittenName) :
    c ∉ n.chars := by
  intro hmem
  have hname := n.isNameChar c hmem
  rw [hc] at hname
  exact absurd hname Bool.false_ne_true

theorem hides {separator : Char} (hseparator : ContentLine.isNameChar separator = false)
    (n : WrittenName) : ContentLine.Hides separator false n.chars :=
  (ContentLine.hides_iff_not_mem (n.not_mem rfl)).2 (n.not_mem hseparator)

theorem badNameOffset? (n : WrittenName) : ContentLine.badNameOffset? n.chars = none := by
  rw [ContentLine.badNameOffset?, if_pos (List.all_eq_true.2 n.isNameChar)]

theorem cut?_append (n : WrittenName) (rest : List Char) :
    Text.cut? (· == '=') (n.chars ++ '=' :: rest) = some (n.chars, rest) :=
  Text.cut?_append_of_not_mem (n.not_mem rfl) rest

end WrittenName

namespace WrittenValue

theorem hides (v : WrittenValue) {separator : Char} (h : separator ∈ [';', ':', ',']) :
    ContentLine.Hides separator false v.chars := by
  cases v with
  | quoted chars noQuote =>
    exact ContentLine.hides_quoted (isNameChar_of_separator h).2.1 noQuote
  | plain chars noMark =>
    have hnoQuote : '"' ∉ chars := fun hmem => noMark _ hmem (by decide)
    refine (ContentLine.hides_iff_not_mem hnoQuote).2 fun hmem => noMark _ hmem ?_
    exact List.mem_cons_of_mem _ h

theorem chars_injective : Function.Injective chars := by
  intro v w h
  cases v with
  | quoted chars noQuote =>
    cases w with
    | quoted chars' _ =>
      obtain rfl : chars = chars' := List.append_cancel_right (List.cons.inj h).2
      rfl
    | plain chars' noMark =>
      have hmem : '"' ∈ chars' := (show '"' :: (chars ++ ['"']) = chars' from h) ▸ List.mem_cons_self
      exact absurd List.mem_cons_self (noMark '"' hmem)
  | plain chars noMark =>
    cases w with
    | quoted chars' _ =>
      have hmem : '"' ∈ chars := (show chars = '"' :: (chars' ++ ['"']) from h) ▸ List.mem_cons_self
      exact absurd List.mem_cons_self (noMark '"' hmem)
    | plain chars' _ =>
      obtain rfl : chars = chars' := h
      rfl

end WrittenValue

namespace ContentLine

variable {raw : List Char} {value : String}

theorem readValue?_quoted {cs : List Char} (h : '"' ∉ cs) :
    readValue? ('"' :: (cs ++ ['"'])) = some (String.ofList (Caret.decode cs)) := by
  simp [readValue?, h]

theorem readValue?_plain (h : '"' ∉ raw) :
    readValue? raw = some (String.ofList (Caret.decode raw)) := by
  unfold readValue?
  split
  · next rest => exact absurd List.mem_cons_self h
  · simp [h]

theorem cases_of_readValue? (h : readValue? raw = some value) :
    (∃ cs, raw = '"' :: (cs ++ ['"']) ∧ '"' ∉ cs) ∨ '"' ∉ raw := by
  unfold readValue? at h
  obtain ⟨inner, hinner, hvalue⟩ := Option.bind_eq_some_iff.1 h
  have hnoQuote : '"' ∉ inner := by
    intro hmem
    simp [hmem] at hvalue
  split at hinner
  · next rest =>
    split at hinner
    · next hlast =>
      obtain rfl : rest.dropLast = inner := Option.some.inj hinner
      obtain ⟨cs, rfl⟩ := List.getLast?_eq_some_iff.1 hlast
      rw [List.dropLast_concat] at hnoQuote
      exact Or.inl ⟨cs, rfl, hnoQuote⟩
    · exact nomatch hinner
  · obtain rfl : raw = inner := Option.some.inj hinner
    exact Or.inr hnoQuote

theorem readValue?_eq_some_iff (h : ∀ separator ∈ [';', ':', ','], Hides separator false raw) :
    readValue? raw = some value ↔ ∃ v : WrittenValue, v.chars = raw ∧ v.meaning = value := by
  constructor
  · intro hread
    rcases cases_of_readValue? hread with ⟨cs, rfl, hnoQuote⟩ | hnoQuote
    · rw [readValue?_quoted hnoQuote] at hread
      exact ⟨.quoted cs hnoQuote, rfl, Option.some.inj hread⟩
    · have hnoMark : ∀ c ∈ raw, c ∉ ['"', ';', ':', ','] := by
        intro c hc hmark
        rcases List.mem_cons.1 hmark with rfl | hseparator
        · exact hnoQuote hc
        · exact (hides_iff_not_mem hnoQuote).1 (h c hseparator) hc
      rw [readValue?_plain hnoQuote] at hread
      exact ⟨.plain raw hnoMark, rfl, Option.some.inj hread⟩
  · rintro ⟨v, rfl, rfl⟩
    cases v with
    | quoted chars noQuote => exact readValue?_quoted noQuote
    | plain chars noMark => exact readValue?_plain fun hmem => noMark _ hmem List.mem_cons_self

theorem exists_map_cons_iff {α β γ : Type} {f : γ → α} {g : γ → β} {a : α} {as : List α} {b : β}
    {bs : List β} :
    (∃ cs : List γ, cs.map f = a :: as ∧ cs.map g = b :: bs) ↔
      (∃ c, f c = a ∧ g c = b) ∧ ∃ cs : List γ, cs.map f = as ∧ cs.map g = bs := by
  constructor
  · rintro ⟨- | ⟨c, cs⟩, hf, hg⟩
    · exact nomatch hf
    · obtain ⟨hfc, hfcs⟩ := List.cons.inj hf
      obtain ⟨hgc, hgcs⟩ := List.cons.inj hg
      exact ⟨⟨c, hfc, hgc⟩, cs, hfcs, hgcs⟩
  · rintro ⟨⟨c, hfc, hgc⟩, cs, hfcs, hgcs⟩
    exact ⟨c :: cs, by rw [List.map_cons, hfc, hfcs], by rw [List.map_cons, hgc, hgcs]⟩

theorem readValues_eq_ok_iff {pieces : List (List Char)} (offset : Nat)
    (h : ∀ piece ∈ pieces, ∀ separator ∈ [';', ':', ','], Hides separator false piece)
    {values : List String} :
    readValues (withOffsets offset pieces) = .ok values ↔
      ∃ vs : List WrittenValue,
        vs.map WrittenValue.chars = pieces ∧ vs.map WrittenValue.meaning = values := by
  induction pieces generalizing offset values with
  | nil => simp [withOffsets, readValues, eq_comm]
  | cons piece pieces ih =>
    obtain ⟨hpiece, hpieces⟩ := List.forall_mem_cons.1 h
    rw [withOffsets, readValues]
    cases values with
    | nil =>
      refine iff_of_false ?_ ?_
      · split
        · simp
        · simp [map_eq_ok_iff]
      · rintro ⟨vs, hchars, hmeaning⟩
        rw [List.map_eq_nil_iff.1 hmeaning] at hchars
        exact nomatch hchars
    | cons value values =>
      rw [exists_map_cons_iff, ← readValue?_eq_some_iff hpiece,
        ← ih (offset + Text.byteLength piece + 1) hpieces]
      split
      · next hnone => simp [hnone]
      · next read hread =>
        rw [hread, map_eq_ok_iff, Option.some.injEq, and_comm]
        simp only [List.cons.injEq, exists_eq_right_right]

end ContentLine

namespace WrittenParameter

open ContentLine (Hides hides_append hides_cons_of_ne hides_intercalate
  hides_of_mem_splitUnquoted hides_other_of_mem_splitUnquoted)

theorem forall_hides_values (p : WrittenParameter) {separator : Char}
    (h : separator ∈ [';', ':', ',']) :
    ∀ piece ∈ p.values.map WrittenValue.chars, Hides separator false piece :=
  List.forall_mem_map.2 fun v _ => v.hides h

theorem hides_assignment (n : WrittenName) {separator : Char} (h : separator ∈ [';', ':', ','])
    (rest : List Char) :
    Hides separator false (n.chars ++ '=' :: rest) ↔ Hides separator false rest := by
  obtain ⟨hname, -, hequals⟩ := isNameChar_of_separator h
  rw [hides_append (n.hides hname).closed, hides_cons_of_ne (by decide) hequals.symm]
  exact and_iff_right (n.hides hname)

theorem hides (p : WrittenParameter) {separator : Char} (h : separator ∈ [';', ':']) :
    Hides separator false p.chars := by
  have hseparator : separator ∈ [';', ':', ','] := List.mem_append_left [','] h
  have hne : ',' ≠ separator := by
    rintro rfl
    exact absurd h (by decide)
  have hvalues := p.forall_hides_values hseparator
  rw [chars, hides_assignment p.name hseparator,
    hides_intercalate (by decide) hne fun piece hpiece => (hvalues piece hpiece).closed]
  exact hvalues

theorem hides_pieces (n : WrittenName) {rest : List Char}
    (h : ∀ separator ∈ [';', ':'], Hides separator false (n.chars ++ '=' :: rest)) :
    ContentLine.Closed false rest ∧ ∀ piece ∈ ContentLine.splitUnquoted ',' false rest,
      ∀ separator ∈ [';', ':', ','], Hides separator false piece := by
  have hsemicolon : Hides ';' false rest :=
    (hides_assignment n (by decide) rest).1 (h ';' (by decide))
  have hcolon : Hides ':' false rest :=
    (hides_assignment n (by decide) rest).1 (h ':' (by decide))
  refine ⟨hcolon.closed, fun piece hpiece => ?_⟩
  simp only [List.forall_mem_cons, List.not_mem_nil, false_implies, implies_true, and_true]
  exact ⟨hides_other_of_mem_splitUnquoted (by decide) (by decide) hsemicolon piece hpiece,
    hides_other_of_mem_splitUnquoted (by decide) (by decide) hcolon piece hpiece,
    hides_of_mem_splitUnquoted (by decide) hcolon.closed piece hpiece⟩

def assigned (p : WrittenParameter) : List Char :=
  [','].intercalate (p.values.map WrittenValue.chars)

theorem splitUnquoted_assigned (p : WrittenParameter) :
    ContentLine.splitUnquoted ',' false p.assigned = p.values.map WrittenValue.chars := by
  have hne : p.values.map WrittenValue.chars ≠ [] := by
    rw [ne_eq, List.map_eq_nil_iff]
    exact p.values_ne_nil
  exact ContentLine.splitUnquoted_intercalate (by decide) hne (p.forall_hides_values (by decide))

theorem chars_injective : Function.Injective chars := by
  intro p q h
  have hcut : some (p.name.chars, p.assigned) = some (q.name.chars, q.assigned) := by
    rw [← p.name.cut?_append p.assigned, ← q.name.cut?_append q.assigned]
    exact congrArg _ h
  obtain ⟨hname, hassigned⟩ := Prod.mk.inj (Option.some.inj hcut)
  have hvalues : p.values.map WrittenValue.chars = q.values.map WrittenValue.chars := by
    rw [← p.splitUnquoted_assigned, ← q.splitUnquoted_assigned, hassigned]
  apply WrittenParameter.ext
  · exact WrittenName.ext hname
  · exact List.map_injective_iff.2 WrittenValue.chars_injective hvalues

end WrittenParameter

namespace WrittenLine

open ContentLine (Hides cutHead splitUnquoted)

theorem hides_pieces (l : WrittenLine) {separator : Char} (h : separator ∈ [';', ':']) :
    ∀ piece ∈ l.name.chars :: l.parameters.map WrittenParameter.chars,
      Hides separator false piece := by
  have hname := (isNameChar_of_separator (List.mem_append_left [','] h)).1
  exact List.forall_mem_cons.2 ⟨l.name.hides hname, List.forall_mem_map.2 fun p _ => p.hides h⟩

theorem splitUnquoted_head (l : WrittenLine) :
    splitUnquoted ';' false l.head = l.name.chars :: l.parameters.map WrittenParameter.chars :=
  ContentLine.splitUnquoted_intercalate (by decide) (List.cons_ne_nil _ _)
    (l.hides_pieces (by decide))

theorem cutHead_text (l : WrittenLine) :
    cutHead none 0 l.text.toList = .ok (l.head, l.value) := by
  have hhides : ∀ piece ∈ l.name.chars :: l.parameters.map WrittenParameter.chars,
      Hides ':' false piece := l.hides_pieces (by decide)
  have hclosed : ∀ piece ∈ l.name.chars :: l.parameters.map WrittenParameter.chars,
      ContentLine.Closed false piece := fun piece hpiece => (hhides piece hpiece).closed
  rw [ContentLine.cutHead_eq_ok_iff, text, String.toList_ofList]
  refine ⟨rfl, ?_⟩
  exact (ContentLine.hides_intercalate (by decide) (by decide) hclosed).2 hhides

theorem text_injective : Function.Injective text := by
  intro l m h
  have hcut : Except.ok (ε := Option Nat) (l.head, l.value) = .ok (m.head, m.value) := by
    rw [← l.cutHead_text, ← m.cutHead_text, h]
  obtain ⟨hhead, hvalue⟩ := Prod.mk.inj (Except.ok.inj hcut)
  have hpieces : l.name.chars :: l.parameters.map WrittenParameter.chars =
      m.name.chars :: m.parameters.map WrittenParameter.chars := by
    rw [← l.splitUnquoted_head, ← m.splitUnquoted_head, hhead]
  obtain ⟨hname, hparameters⟩ := List.cons.inj hpieces
  apply WrittenLine.ext
  · exact WrittenName.ext hname
  · exact List.map_injective_iff.2 WrittenParameter.chars_injective hparameters
  · exact hvalue

end WrittenLine

namespace ContentLine

theorem badNameOffset?_eq_none_iff {cs : List Char} :
    badNameOffset? cs = none ↔ ∀ c ∈ cs, isNameChar c = true := by
  unfold badNameOffset?
  split
  · next hall => simpa using hall
  · next hnot => simpa using hnot

theorem readParameter_eq_ok_iff_stages {segment : List Char} {number offset : Nat}
    {parameter : Parameter} :
    readParameter number offset segment = .ok parameter ↔
      ∃ (n : WrittenName) (rest : List Char) (values : List String),
        segment = n.chars ++ '=' :: rest ∧
          readValues (withOffsets (offset + Text.byteLength n.chars + 1)
            (splitUnquoted ',' false rest)) = .ok values ∧
          Parameter.ofValues (String.ofList n.chars) values = parameter := by
  constructor
  · intro hread
    unfold readParameter at hread
    dsimp only at hread
    split at hread
    · exact nomatch hread
    · next name rest hcut =>
      obtain ⟨c, rfl, hc, -⟩ := Text.eq_append_of_cut? hcut
      obtain rfl : c = '=' := by simpa using hc
      split at hread
      · exact nomatch hread
      · next hname =>
        split at hread
        · exact nomatch hread
        · next hgood =>
          split at hread
          · next values hvalues =>
            exact ⟨⟨name, hname, badNameOffset?_eq_none_iff.1 hgood⟩, rest, values, rfl, hvalues,
              Except.ok.inj hread⟩
          · exact nomatch hread
  · rintro ⟨n, rest, values, rfl, hvalues, rfl⟩
    simp only [readParameter, n.cut?_append, if_neg n.chars_ne_nil, n.badNameOffset?, hvalues]

theorem readParameter_eq_ok_iff {segment : List Char} {number offset : Nat} {parameter : Parameter}
    (h : ∀ separator ∈ [';', ':'], Hides separator false segment) :
    readParameter number offset segment = .ok parameter ↔
      ∃ p : WrittenParameter, p.chars = segment ∧ p.meaning = parameter := by
  rw [readParameter_eq_ok_iff_stages]
  constructor
  · rintro ⟨n, rest, values, rfl, hvalues, rfl⟩
    obtain ⟨hclosed, hpieces⟩ := WrittenParameter.hides_pieces n h
    obtain ⟨vs, hchars, rfl⟩ := (readValues_eq_ok_iff _ hpieces).1 hvalues
    have hne : vs ≠ [] := by
      rintro rfl
      exact splitUnquoted_ne_nil ',' false rest hchars.symm
    refine ⟨⟨n, vs, hne⟩, ?_, rfl⟩
    rw [WrittenParameter.chars, hchars, intercalate_splitUnquoted (by decide) hclosed]
  · rintro ⟨p, rfl, rfl⟩
    refine ⟨p.name, p.assigned, p.values.map WrittenValue.meaning, rfl, ?_, rfl⟩
    rw [p.splitUnquoted_assigned, readValues_eq_ok_iff]
    · exact ⟨p.values, rfl, rfl⟩
    · intro piece hpiece separator hseparator
      exact p.forall_hides_values hseparator piece hpiece

theorem readParameters_eq_ok_iff {segments : List (List Char)} {number : Nat} (offset : Nat)
    (h : ∀ segment ∈ segments, ∀ separator ∈ [';', ':'], Hides separator false segment)
    {parameters : List Parameter} :
    readParameters number (withOffsets offset segments) = .ok parameters ↔
      ∃ ps : List WrittenParameter,
        ps.map WrittenParameter.chars = segments ∧ ps.map WrittenParameter.meaning = parameters := by
  induction segments generalizing offset parameters with
  | nil => simp [withOffsets, readParameters, eq_comm]
  | cons segment segments ih =>
    obtain ⟨hsegment, hsegments⟩ := List.forall_mem_cons.1 h
    rw [withOffsets, readParameters, bind_eq_ok_iff]
    cases parameters with
    | nil =>
      refine iff_of_false ?_ ?_
      · simp [bind_eq_ok_iff, pure, Except.pure]
      · rintro ⟨ps, hchars, hmeaning⟩
        rw [List.map_eq_nil_iff.1 hmeaning] at hchars
        exact nomatch hchars
    | cons parameter parameters =>
      have hread : readParameter number offset segment = .ok parameter ↔ _ :=
        readParameter_eq_ok_iff hsegment
      rw [exists_map_cons_iff, ← hread, ← ih (offset + Text.byteLength segment + 1) hsegments]
      simp only [bind_eq_ok_iff, pure, Except.pure, Except.ok.injEq, List.cons.injEq]
      constructor
      · rintro ⟨first, hfirst, others, hothers, rfl, rfl⟩
        exact ⟨hfirst, hothers⟩
      · rintro ⟨hfirst, hothers⟩
        exact ⟨parameter, hfirst, parameters, hothers, rfl, rfl⟩

theorem parse_text (l : WrittenLine) (number : Nat) : parse l.text number = .ok l.meaning := by
  have hsegments : ∀ segment ∈ l.parameters.map WrittenParameter.chars,
      ∀ separator ∈ [';', ':'], Hides separator false segment := by
    intro segment hsegment separator hseparator
    exact l.hides_pieces hseparator segment (List.mem_cons_of_mem _ hsegment)
  have hparameters : readParameters number (withOffsets (0 + Text.byteLength l.name.chars + 1)
      (l.parameters.map WrittenParameter.chars)) =
        .ok (l.parameters.map WrittenParameter.meaning) :=
    (readParameters_eq_ok_iff _ hsegments).2 ⟨l.parameters, rfl, rfl⟩
  simp only [parse, l.cutHead_text, l.splitUnquoted_head, withOffsets, if_neg l.name.chars_ne_nil,
    l.name.badNameOffset?, hparameters]
  rw [WrittenLine.meaning, Text.byteLength_append]
  rfl

theorem exists_of_parse {text : String} {number : Nat} {line : ContentLine}
    (h : parse text number = .ok line) : ∃ l : WrittenLine, l.text = text ∧ l.meaning = line := by
  unfold parse at h
  dsimp only at h
  split at h
  · exact nomatch h
  · exact nomatch h
  · next head value hcut =>
    obtain ⟨name, segments, hsplit⟩ := exists_splitUnquoted ';' false head
    have hline : LineCut text.toList name segments value := lineCut_iff.2 ⟨head, hcut, hsplit⟩
    rw [hsplit, withOffsets] at h
    dsimp only at h
    split at h
    · exact nomatch h
    · next hname =>
      split at h
      · exact nomatch h
      · next hgood =>
        obtain ⟨parameters, hparameters, hmeaning⟩ := bind_eq_ok_iff.1 h
        obtain ⟨ps, rfl, rfl⟩ := (readParameters_eq_ok_iff _
          (List.forall_mem_cons.1 hline.hides).2).1 hparameters
        let l : WrittenLine := ⟨⟨name, hname, badNameOffset?_eq_none_iff.1 hgood⟩, ps, value⟩
        have htext : text.toList = l.head ++ ':' :: value := hline.line_eq
        have hhead : l.head = head :=
          List.append_cancel_right (htext.symm.trans (cutHead_eq_ok_iff.1 hcut).1)
        refine ⟨l, ?_, ?_⟩
        · rw [WrittenLine.text, ← htext, String.ofList_toList]
        · rw [← Except.ok.inj hmeaning, WrittenLine.meaning, hhead, Text.byteLength_append]
          rfl

/-- A text is accepted just if it spells a line. It spells one line only, and the parts of that line
are what is read. -/
theorem parse_eq_ok_iff (text : String) (number : Nat) :
    (∀ line, parse text number = .ok line ↔ ∃ l : WrittenLine, l.text = text ∧ l.meaning = line) ∧
      ∀ l m : WrittenLine, l.text = text → m.text = text → l = m := by
  refine ⟨fun line => ⟨exists_of_parse, ?_⟩, ?_⟩
  · rintro ⟨l, rfl, rfl⟩
    exact parse_text l number
  · intro l m hl hm
    exact WrittenLine.text_injective (hl.trans hm.symm)

end ContentLine

end Almanac
