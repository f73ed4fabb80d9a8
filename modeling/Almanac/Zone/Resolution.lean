import Almanac.Zone.History
import Almanac.Zone.Aliases
import Almanac.Zone.Windows
import Almanac.Zone.Error

/-!
Finding the zone that a calendar program means by an identifier. Exact names come first; then names
of Windows and spellings that differ in letter case, after the mark of one of two calendar programs
is taken off. A `Resolver` remembers what it has found and answers as `Zone.resolve` does.
-/

namespace Almanac

namespace Zone

/-- Takes off the mark that two calendar programs put in front of their identifiers. -/
def withoutVendor (identifier : String) : String :=
  let cs := identifier.toList
  match Text.stripPrefix? "/mozilla.org/".toList cs with
  | some rest => String.ofList rest
  | none =>
    match Text.stripPrefix? "/softwarestudio.org/".toList cs with
    | some rest => String.ofList rest
    | none => identifier

def currentName? (identifier : String) : Option String :=
  let key := Text.asciiLower identifier
  match aliases.find? fun entry => Text.asciiLower entry.1 == key with
  | some entry => some entry.2
  | none => names.find? fun name => Text.asciiLower name == key

def normalName (identifier : String) : String :=
  let rest := withoutVendor identifier
  match windowsNames.lookup rest with
  | some name => name
  | none => (currentName? rest).getD rest

def resolve (identifier : String) : Except ZoneError Zone :=
  let trimmed := String.ofList (Text.trim identifier.toList)
  match named? trimmed with
  | some zone => .ok zone
  | none =>
    match named? (normalName trimmed) with
    | some zone => .ok zone
    | none => .error (.unknownZone identifier)

end Zone

/-- Zones found so far, by identifier as written. -/
structure Resolver where
  found : List (String × Zone) := []

namespace Resolver

def resolve (r : Resolver) (identifier : String) : Except ZoneError Zone × Resolver :=
  match r.found.lookup identifier with
  | some zone => (.ok zone, r)
  | none =>
    match Zone.resolve identifier with
    | .ok zone => (.ok zone, ⟨(identifier, zone) :: r.found⟩)
    | .error e => (.error e, r)

end Resolver

end Almanac
