import Almanac.Proofs.Line.Grammar
import Almanac.Proofs.Line.Numbers

/-! Columns count from the start of a line. Behind a longer name the same text is read as it was and
a fault of it is reported that much further to the right: `parse_rename` and `dateList_rename`. -/

namespace Almanac

namespace LineError

def moved (d : Nat) (e : LineError) : LineError :=
  { e with column := e.column + d }

end LineError

open LineError (moved)

namespace ContentLine

variable (d : Nat)

theorem withOffsets_add (offset : Nat) (pieces : List (List Char)) :
    withOffsets (offset + d) pieces = (withOffsets offset pieces).map (Prod.map (· + d) id) := by
  induction pieces generalizing offset with
  | nil => rfl
  | cons piece pieces ih =>
    have hnext : offset + d + Text.byteLength piece + 1 =
        offset + Text.byteLength piece + 1 + d := by omega
    rw [withOffsets, withOffsets, hnext, ih, List.map_cons]
    rfl

theorem quoteAfter_moved (quote : Option Nat) (offset : Nat) (c : Char) :
    quoteAfter (quote.map (· + d)) (offset + d) c = (quoteAfter quote offset c).map (· + d) := by
  unfold quoteAfter
  split
  · cases quote <;> rfl
  · rfl

theorem cutHead_moved (quote : Option Nat) (offset : Nat) (cs : List Char) :
    cutHead (quote.map (· + d)) (offset + d) cs =
      (cutHead quote offset cs).mapError (Option.map (· + d)) := by
  induction cs generalizing quote offset with
  | nil => rfl
  | cons c cs ih =>
    by_cases hend : c = ':' ∧ quote = none
    · obtain ⟨rfl, rfl⟩ := hend
      rfl
    · have hend' : ¬(c = ':' ∧ quote.map (· + d) = none) := by simpa using hend
      rw [cutHead_cons hend, cutHead_cons hend', quoteAfter_moved, Nat.add_right_comm, ih]
      exact map_mapError ..

theorem readValues_moved (pieces : List (Nat × List Char)) :
    readValues (pieces.map (Prod.map (· + d) id)) =
      (readValues pieces).mapError (Prod.map (· + d) id) := by
  induction pieces with
  | nil => rfl
  | cons piece pieces ih =>
    obtain ⟨offset, raw⟩ := piece
    rw [List.map_cons, Prod.map_apply, readValues, readValues, id, ih]
    cases readValue? raw with
    | none => rfl
    | some value => exact map_mapError ..

theorem readParameter_moved (number offset : Nat) (segment : List Char) :
    readParameter number (offset + d) segment =
      (readParameter number offset segment).mapError (moved d) := by
  simp only [readParameter]
  split
  · rw [Nat.add_right_comm]
    rfl
  · next name values _ =>
    split
    · rw [Nat.add_right_comm]
      rfl
    · split
      · next bad _ =>
        have hcolumn : offset + d + bad + 1 = offset + bad + 1 + d := by omega
        rw [hcolumn]
        rfl
      · have hstart : offset + d + Text.byteLength name + 1 =
            offset + Text.byteLength name + 1 + d := by omega
        rw [hstart, withOffsets_add, readValues_moved]
        generalize readValues _ = answer
        cases answer with
        | ok values => rfl
        | error piece =>
          obtain ⟨bad, raw⟩ := piece
          have hcolumn : bad + d + 1 = bad + 1 + d := by omega
          simp only [Except.mapError, Prod.map, hcolumn]
          rfl

theorem readParameters_moved (number : Nat) (segments : List (Nat × List Char)) :
    readParameters number (segments.map (Prod.map (· + d) id)) =
      (readParameters number segments).mapError (moved d) := by
  induction segments with
  | nil => rfl
  | cons segment segments ih =>
    simp only [List.map_cons, Prod.map, id, readParameters, mapError_bind, ← readParameter_moved,
      ← ih]
    rfl


theorem readItems_moved (number : Nat) (valueType zoneId : Option String)
    (items : List (Nat × List Char)) :
    ListedDate.readItems number valueType zoneId (items.map (Prod.map (· + d) id)) =
      (ListedDate.readItems number valueType zoneId items).mapError (moved d) := by
  induction items with
  | nil => rfl
  | cons item items ih =>
    obtain ⟨offset, raw⟩ := item
    simp only [List.map_cons, Prod.map, id, ListedDate.readItems, ih]
    split
    · rfl
    · split
      · rw [Nat.add_right_comm]
        rfl
      · rw [mapError_bind]
        rfl

theorem cutHead_append_of_isNameChar {cs : List Char} (h : ∀ c ∈ cs, isNameChar c = true)
    (offset : Nat) (rest : List Char) :
    cutHead none offset (cs ++ rest) =
      (cutHead none (offset + Text.byteLength cs) rest).map fun cut => (cs ++ cut.1, cut.2) := by
  induction cs generalizing offset with
  | nil => cases hcut : cutHead none offset rest <;> simp [hcut, Except.map]
  | cons c cs ih =>
    obtain ⟨hc, hcs⟩ := List.forall_mem_cons.1 h
    have hcolon : ¬(c = ':' ∧ (none : Option Nat) = none) := by
      rintro ⟨rfl, -⟩
      exact absurd hc (by decide)
    have hquote : quoteAfter none offset c = none := by
      refine if_neg ?_
      rintro rfl
      exact absurd hc (by decide)
    rw [List.cons_append, cutHead_cons hcolon, hquote, ih hcs, Text.byteLength_cons,
      Nat.add_assoc]
    cases cutHead none (offset + (c.utf8Size + Text.byteLength cs)) rest <;> rfl

end ContentLine

/-- The text after the name of a property: parameters and a value, or the value alone. -/
def FollowsName (rest : List Char) : Prop :=
  ∃ c others, rest = c :: others ∧ (c = ';' ∨ c = ':')

namespace WrittenName

open ContentLine (cutHead splitUnquoted withOffsets)

variable (n n' : WrittenName) {rest : List Char}

theorem splitUnquoted_append (h : FollowsName rest) {offset : Nat} {head value : List Char}
    (hcut : cutHead none offset rest = .ok (head, value)) :
    splitUnquoted ';' false (n.chars ++ head) =
      n.chars :: (splitUnquoted ';' false head).tail := by
  obtain ⟨c, others, rfl, rfl | rfl⟩ := h
  · obtain ⟨hrest, -⟩ := ContentLine.cutHead_eq_ok_iff.1 hcut
    cases head with
    | nil => exact absurd (List.cons.inj hrest).1 (by decide)
    | cons c head =>
      obtain rfl : ';' = c := (List.cons.inj hrest).1
      rw [ContentLine.splitUnquoted_append_cons (n.hides rfl), splitUnquoted, if_pos ⟨rfl, rfl⟩,
        List.tail_cons]
  · have hnothing : cutHead none offset (':' :: others) = .ok ([], others) := rfl
    obtain ⟨rfl, -⟩ := Prod.mk.inj (Except.ok.inj (hnothing.symm.trans hcut))
    have hone : splitUnquoted ';' false ([';'].intercalate [n.chars]) = [n.chars] :=
      ContentLine.splitUnquoted_intercalate (by decide) (List.cons_ne_nil n.chars [])
        (List.forall_mem_singleton.2 (n.hides rfl))
    rw [List.intercalate_singleton] at hone
    rw [List.append_nil, hone]
    rfl

def readAfter (rest : List Char) (number : Nat) : Except LineError ContentLine :=
  let start := Text.byteLength n.chars
  match cutHead none start rest with
  | .error (some quote) => .error { fault := .unclosedQuote, line := number, column := quote + 1 }
  | .error none =>
    .error { fault := .missingColon, line := number, column := start + Text.byteLength rest }
  | .ok (head, value) => do
    let segments := withOffsets (start + 1) (splitUnquoted ';' false head).tail
    let parameters ← ContentLine.readParameters number segments
    return {
      name := Text.asciiUpper (String.ofList n.chars)
      parameters
      value := String.ofList value
      valueOffset := start + Text.byteLength head + 1 }

theorem parse_append (h : FollowsName rest) (number : Nat) :
    ContentLine.parse (String.ofList (n.chars ++ rest)) number = n.readAfter rest number := by
  unfold ContentLine.parse readAfter
  rw [String.toList_ofList, ContentLine.cutHead_append_of_isNameChar n.isNameChar, Nat.zero_add]
  cases hcut : cutHead none (Text.byteLength n.chars) rest with
  | error quote =>
    cases quote with
    | none => simp only [hcut, Except.map, Text.byteLength_append]
    | some quote => simp only [hcut, Except.map]
  | ok cut =>
    obtain ⟨head, value⟩ := cut
    simp only [hcut, Except.map, n.splitUnquoted_append h hcut, withOffsets,
      if_neg n.chars_ne_nil, n.badNameOffset?, Text.byteLength_append, Nat.zero_add]

variable {n n'} {d : Nat}

def rename (n' : WrittenName) (d : Nat) (l : ContentLine) : ContentLine :=
  { l with
    name := Text.asciiUpper (String.ofList n'.chars)
    valueOffset := l.valueOffset + d }

theorem parse_rename (hlength : Text.byteLength n'.chars = Text.byteLength n.chars + d)
    (h : FollowsName rest) (number : Nat) :
    ContentLine.parse (String.ofList (n'.chars ++ rest)) number =
      ((ContentLine.parse (String.ofList (n.chars ++ rest)) number).map (rename n' d)).mapError
        (moved d) := by
  rw [n'.parse_append h, n.parse_append h, readAfter, readAfter, hlength]
  have hcut := ContentLine.cutHead_moved d none (Text.byteLength n.chars) rest
  rw [Option.map_none] at hcut
  simp only [hcut]
  cases cutHead none (Text.byteLength n.chars) rest with
  | error quote =>
    cases quote with
    | none =>
      simp only [Except.mapError, Except.map, Option.map_none, moved, Nat.add_right_comm]
    | some quote =>
      simp only [Except.mapError, Except.map, Option.map_some, moved, Nat.add_right_comm]
  | ok cut =>
    obtain ⟨head, value⟩ := cut
    simp only [mapError_ok, Nat.add_right_comm _ d, ContentLine.withOffsets_add,
      ContentLine.readParameters_moved]
    cases ContentLine.readParameters number _ with
    | error e => rfl
    | ok parameters => rfl

theorem valueColumn_rename (l : ContentLine) :
    (rename n' d l).valueColumn = l.valueColumn + d :=
  Nat.add_right_comm l.valueOffset d 1

theorem dateList_rename (l : ContentLine) (number : Nat) :
    (rename n' d l).dateList number = (l.dateList number).mapError (moved d) := by
  have hform : (rename n' d l).valueType? = l.valueType? := rfl
  have hzone : (rename n' d l).zoneId? = l.zoneId? := rfl
  have hitems : withOffsets (rename n' d l).valueOffset
      ((rename n' d l).value.toList.splitOn ',') =
        (withOffsets l.valueOffset (l.value.toList.splitOn ',')).map (Prod.map (· + d) id) :=
    ContentLine.withOffsets_add d l.valueOffset _
  simp only [ContentLine.dateList, hform, hzone, hitems, ContentLine.readItems_moved,
    valueColumn_rename]
  cases ListedDate.readItems number (l.valueType?.map Text.asciiUpper) l.zoneId?
      (withOffsets l.valueOffset (l.value.toList.splitOn ',')) with
  | error e => rfl
  | ok listed =>
    cases listed with
    | nil => rfl
    | cons first others => rfl

end WrittenName

end Almanac
