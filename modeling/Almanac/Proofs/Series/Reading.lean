import Almanac.Series.Basic
import Almanac.Proofs.Line.Numbers
import Almanac.Proofs.Zone.Resolver

/-! Reading lines one by one. What a line adds depends on its text and the frame alone: not on the
zones looked up before it, and on its number only where a fault is reported. -/

namespace Almanac

open LineError (onLine)

def LineFailure.onLine (number : Nat) : LineFailure → LineFailure
  | refused e => refused (e.onLine number)
  | brokenOff => brokenOff

namespace Contribution

variable (f : Frame) {resolver resolver' : Resolver}

theorem place_faithful (h : resolver.Faithful) (h' : resolver'.Faithful) (d : ListedDate) :
    (place f resolver d).1 = (place f resolver' d).1 ∧ (place f resolver d).2.Faithful := by
  cases d with
  | day d => exact ⟨rfl, h⟩
  | utc t => exact ⟨rfl, h⟩
  | clock t zoneId =>
    cases zoneId with
    | none => exact ⟨rfl, h⟩
    | some identifier =>
      obtain ⟨hsame, hafter⟩ := h.resolve identifier
      rw [← (h'.resolve identifier).1] at hsame
      rcases hr : resolver.resolve identifier with ⟨answer, after⟩
      rcases hr' : resolver'.resolve identifier with ⟨answer', after'⟩
      rw [hr] at hsame hafter
      rw [hr'] at hsame
      obtain rfl : answer = answer' := hsame
      simp only [place, hr, hr']
      cases answer with
      | error e => exact ⟨rfl, hafter⟩
      | ok zone => exact ⟨rfl, hafter⟩

theorem placeAll_faithful (h : resolver.Faithful) (h' : resolver'.Faithful)
    (ds : List ListedDate) :
    (placeAll f resolver ds).1 = (placeAll f resolver' ds).1 ∧
      (placeAll f resolver ds).2.Faithful := by
  induction ds generalizing resolver resolver' with
  | nil => exact ⟨rfl, h⟩
  | cons d ds ih =>
    obtain ⟨hsame, hafter⟩ := place_faithful f h h' d
    have hafter' := (place_faithful f h' h d).2
    rcases hp : place f resolver d with ⟨placed, after⟩
    rcases hp' : place f resolver' d with ⟨placed', after'⟩
    rw [hp] at hsame hafter
    rw [hp'] at hsame hafter'
    obtain rfl : placed = placed' := hsame
    simp only [placeAll, hp, hp']
    cases placed with
    | error e => exact ⟨rfl, hafter⟩
    | ok p =>
      obtain ⟨hrest, hend⟩ := ih hafter hafter'
      exact ⟨congrArg (Except.map (p :: ·)) hrest, hend⟩

variable (number number' : Nat)

theorem ofDates_faithful (h : resolver.Faithful) (h' : resolver'.Faithful) (line : ContentLine) :
    (ofDates f resolver line number).1 = (ofDates f resolver' line number).1 ∧
      (ofDates f resolver line number).2.Faithful := by
  unfold ofDates
  split
  · exact ⟨rfl, h⟩
  · next listed _ =>
    obtain ⟨hsame, hafter⟩ := placeAll_faithful f h h' listed
    rcases hp : placeAll f resolver listed with ⟨placed, after⟩
    rcases hp' : placeAll f resolver' listed with ⟨placed', after'⟩
    rw [hp] at hsame hafter
    rw [hp'] at hsame
    obtain rfl : placed = placed' := hsame
    cases placed with
    | error e => exact ⟨rfl, hafter⟩
    | ok p => exact ⟨rfl, hafter⟩

theorem ofLine_faithful (h : resolver.Faithful) (h' : resolver'.Faithful) (text : String) :
    (ofLine f resolver text number).1 = (ofLine f resolver' text number).1 ∧
      (ofLine f resolver text number).2.Faithful := by
  unfold ofLine
  split
  · exact ⟨rfl, h⟩
  · next line _ =>
    obtain ⟨hsame, hafter⟩ := ofDates_faithful f number h h' line
    split
    · exact ⟨rfl, h⟩
    · exact ⟨rfl, h⟩
    · exact ⟨rfl, h⟩
    · exact ⟨rfl, h⟩
    · exact ⟨congrArg (Except.map dates) hsame, hafter⟩
    · exact ⟨congrArg (Except.map exclusionDates) hsame, hafter⟩

theorem ofRule_renumber (line : ContentLine) :
    ofRule f line number' = (ofRule f line number).mapError (LineFailure.onLine number') := by
  unfold ofRule
  split
  · rfl
  · rfl
  · rfl

theorem ofDates_renumber (resolver : Resolver) (line : ContentLine) :
    (ofDates f resolver line number').1 =
      (ofDates f resolver line number).1.mapError (LineFailure.onLine number') := by
  unfold ofDates
  rw [line.dateList_renumber number number']
  cases line.dateList number with
  | error e => rfl
  | ok listed =>
    rcases hp : placeAll f resolver listed with ⟨placed, after⟩
    simp only [mapError_ok, hp]
    cases placed with
    | error e => rfl
    | ok p => rfl

theorem ofLine_renumber (resolver : Resolver) (text : String) :
    (ofLine f resolver text number').1 =
      (ofLine f resolver text number).1.mapError (LineFailure.onLine number') := by
  unfold ofLine
  rw [ContentLine.parse_renumber number number']
  cases ContentLine.parse text number with
  | error e => rfl
  | ok line =>
    simp only [mapError_ok]
    cases line.property? with
    | none => rfl
    | some property =>
      cases property with
      | dtstart => rfl
      | rrule => exact (congrArg _ (ofRule_renumber f number number' line)).trans (map_mapError ..)
      | exrule => exact (congrArg _ (ofRule_renumber f number number' line)).trans (map_mapError ..)
      | rdate =>
        exact (congrArg _ (ofDates_renumber f number number' resolver line)).trans
          (map_mapError ..)
      | exdate =>
        exact (congrArg _ (ofDates_renumber f number number' resolver line)).trans
          (map_mapError ..)

end Contribution

end Almanac
