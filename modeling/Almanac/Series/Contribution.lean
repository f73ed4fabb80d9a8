import Almanac.Line.DateList
import Almanac.Rule.Reading
import Almanac.Rule.Completion
import Almanac.Rule.Validity
import Almanac.Zone.Placement
import Almanac.Zone.Resolution
import Almanac.Series.Error

/-!
What one content line adds to a series. The start of the series and its zone are given; the rest of
the data plays no part, except that zones once looked up are remembered.
-/

namespace Almanac

/-- The frame into which lines are read. -/
structure Frame where
  /-- The UTC second at which the series starts. -/
  start : Int
  wholeDay : Bool
  /-- The zone of wall clocks that name none. -/
  governing : Zone
deriving DecidableEq

namespace Frame

def ofStart (start : Moment) (governing : Zone) : Except ZoneError Frame :=
  match start with
  | .wholeDay _ => .ok ⟨start.second, true, governing⟩
  | .timed wall => (governing.place wall).map fun i => ⟨i.second, false, governing⟩

def zone (f : Frame) : Zone :=
  if f.wholeDay then Zone.utc else f.governing

end Frame

structure PlacedDate where
  second : Int
  /-- Whether the item is a day without a time. -/
  wholeDay : Bool
deriving DecidableEq

inductive Contribution
  | rule (r : Rule)
  | exclusionRule (r : Rule)
  | dates (ds : List PlacedDate)
  | exclusionDates (ds : List PlacedDate)
  | nothing
deriving DecidableEq

namespace Contribution

/-- The UTC second at which a rule ends. A wall clock is read in UTC in a series of whole days, and
in the governing zone otherwise. -/
def endSecond (f : Frame) : RuleEnd → Except ZoneError Int
  | .utc t => .ok t.toSeconds
  | .floating t =>
    if f.wholeDay then .ok t.toSeconds else (f.governing.place t).map Instant.second

def readRule (f : Frame) (text : String) : Except (Option String) Rule :=
  match RuleParts.parse text with
  | .error .brokenOff => .error none
  | .error (.refused reason) => .error (some reason.message)
  | .ok parts =>
    let until? : Except ZoneError (Option Int) :=
      match parts.ending? with
      | none => .ok none
      | some e => (endSecond f e).map some
    match until? with
    | .error e => .error (some e.message)
    | .ok until? =>
      let r := parts.complete (f.zone.clockAt f.start) until?
      match r.check f.zone f.start with
      | .error reason => .error (some reason.message)
      | .ok _ => .ok r

def ofRule (f : Frame) (line : ContentLine) (number : Nat) : Except LineFailure Rule :=
  match readRule f line.value with
  | .ok r => .ok r
  | .error none => .error .brokenOff
  | .error (some reason) =>
    .error (.refused {
      fault := .invalidRule
      line := number
      column := line.valueColumn
      context := some reason })

/-- Where an item stands on the timeline. A day stands at its midnight in UTC. -/
def place (f : Frame) (resolver : Resolver) :
    ListedDate → Except ZoneError PlacedDate × Resolver
  | .day d => (.ok ⟨(DateTime.midnight d).toSeconds, true⟩, resolver)
  | .utc t => (.ok ⟨t.toSeconds, false⟩, resolver)
  | .clock t none => ((f.governing.place t).map fun i => ⟨i.second, false⟩, resolver)
  | .clock t (some identifier) =>
    match resolver.resolve identifier with
    | (.error e, resolver) => (.error e, resolver)
    | (.ok zone, resolver) => ((zone.place t).map fun i => ⟨i.second, false⟩, resolver)

def placeAll (f : Frame) (resolver : Resolver) :
    List ListedDate → Except ZoneError (List PlacedDate) × Resolver
  | [] => (.ok [], resolver)
  | d :: ds =>
    match place f resolver d with
    | (.error e, resolver) => (.error e, resolver)
    | (.ok p, resolver) =>
      let (ps, resolver) := placeAll f resolver ds
      (ps.map (p :: ·), resolver)

def faultOf : ZoneError → LineFault
  | .unknownZone _ => .unknownZone
  | .skippedTime .. => .skippedTime

def ofDates (f : Frame) (resolver : Resolver) (line : ContentLine) (number : Nat) :
    Except LineFailure (List PlacedDate) × Resolver :=
  match line.dateList number with
  | .error e => (.error (.refused e), resolver)
  | .ok listed =>
    match placeAll f resolver listed with
    | (.ok placed, resolver) => (.ok placed, resolver)
    | (.error e, resolver) =>
      (.error (.refused {
        fault := faultOf e
        line := number
        column := line.valueColumn
        context := some e.message }), resolver)

def ofLine (f : Frame) (resolver : Resolver) (text : String) (number : Nat) :
    Except LineFailure Contribution × Resolver :=
  match ContentLine.parse text number with
  | .error e => (.error (.refused e), resolver)
  | .ok line =>
    match line.property? with
    | none =>
      (.error (.refused {
        fault := .unsupportedProperty
        line := number
        column := 1
        context := some ("`" ++ line.name ++ "`") }), resolver)
    | some .dtstart => (.ok .nothing, resolver)
    | some .rrule => ((ofRule f line number).map rule, resolver)
    | some .exrule => ((ofRule f line number).map exclusionRule, resolver)
    | some .rdate =>
      let (placed, resolver) := ofDates f resolver line number
      (placed.map dates, resolver)
    | some .exdate =>
      let (placed, resolver) := ofDates f resolver line number
      (placed.map exclusionDates, resolver)

end Contribution

end Almanac
