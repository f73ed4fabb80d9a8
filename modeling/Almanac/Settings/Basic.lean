import Almanac.Settings.Node
import Almanac.Toml.Document
import Almanac.Zone.Resolution

/-!
The settings of the library. Defaults are overlaid by a TOML document or by the environment; a
default zone that is blank is refused at the end.
-/

namespace Almanac

structure Settings where
  /-- The zone of a series that is given none. -/
  defaultZoneId : String := "UTC"
  /-- Whether a line that is refused ends the reading. -/
  strict : Bool := false
  logLevel : String := "info"
deriving DecidableEq

inductive SettingsError
  /-- The document is not TOML. -/
  | malformed
  /-- A group of settings is not a table, or lacks an entry. -/
  | misshapen
  | type (e : Settings.TypeError)
  | blankDefaultZone
  | zone (e : ZoneError)
deriving DecidableEq

namespace SettingsError

def message : SettingsError → String
  | malformed => "malformed document"
  | misshapen => "unexpected shape"
  | type e => e.message
  | blankDefaultZone => "Configuration error: recurrence.default_tzid must not be empty"
  | zone e => "Timezone error: " ++ e.message

end SettingsError

namespace Settings

def defaults : Node :=
  .table [
    ("recurrence", .table [
      ("default_tzid", .scalar (.text "UTC") false),
      ("strict", .scalar (.boolean false) false)]),
    ("logging", .table [("level", .scalar (.text "info") false)])]

def group (root : Node) (name : String) : Except SettingsError Node :=
  match root.find? name with
  | some (.table entries) => .ok (.table entries)
  | _ => .error .misshapen

/-- Reads an entry of a group with `read`, which is told the full name of the entry. -/
def entry {α : Type} (read : String → Node → Except TypeError α) (group : Node)
    (groupName name : String) : Except SettingsError α :=
  match group.find? name with
  | none => .error .misshapen
  | some value =>
    match read (groupName ++ "." ++ name) value with
    | .ok a => .ok a
    | .error e => .error (.type e)

def validate (s : Settings) : Except SettingsError Unit :=
  if Text.isAllBlank s.defaultZoneId.toList then .error .blankDefaultZone else .ok ()

def ofNode (root : Node) : Except SettingsError Settings := do
  let recurrence ← group root "recurrence"
  let defaultZoneId ← entry Node.toText recurrence "recurrence" "default_tzid"
  let strict ← entry Node.toBool recurrence "recurrence" "strict"
  let logging ← group root "logging"
  let logLevel ← entry Node.toText logging "logging" "level"
  let settings : Settings := { defaultZoneId, strict, logLevel }
  settings.validate
  return settings

def ofToml (text : String) : Except SettingsError Settings :=
  match Toml.read? text with
  | none => .error .malformed
  | some entries => ofNode (defaults.overlayPaths (Node.ofTomlEntries entries))

def defaultZone (s : Settings) : Except SettingsError Zone := do
  s.validate
  match Zone.resolve s.defaultZoneId with
  | .ok zone => return zone
  | .error e => throw (.zone e)

end Settings

end Almanac
