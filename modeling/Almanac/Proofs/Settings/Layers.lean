import Almanac.Settings.Basic
import Mathlib.Data.List.Nodup
import Mathlib.Logic.Function.Basic

/-! The configuration that the settings are read from. It has one place for each setting, and a
source that sets some of them changes those places and no others, in whatever order it names them:
`overlayPaths_settings`, `overlayPaths_tables`. -/

namespace Almanac

inductive SettingGroup
  | recurrence
  | logging
deriving DecidableEq

namespace SettingGroup

def name : SettingGroup → String
  | recurrence => "recurrence"
  | logging => "logging"

end SettingGroup

inductive SettingKey
  | defaultZoneId
  | strict
  | logLevel
deriving DecidableEq

namespace SettingKey

def group : SettingKey → SettingGroup
  | defaultZoneId => .recurrence
  | strict => .recurrence
  | logLevel => .logging

def name : SettingKey → String
  | defaultZoneId => "default_tzid"
  | strict => "strict"
  | logLevel => "level"

def fullName (k : SettingKey) : String :=
  k.group.name ++ "." ++ k.name

end SettingKey

namespace Settings

open Node (overlayAt overlayAll overlayPaths pathOf)

/-- What stands in the place of a setting. -/
structure Held where
  value : Scalar
  inEnvironment : Bool

def Held.node (held : Held) : Node :=
  .scalar held.value held.inEnvironment

def layout (f : SettingKey → Held) : Node :=
  .table [
    ("recurrence", .table [
      ("default_tzid", (f .defaultZoneId).node),
      ("strict", (f .strict).node)]),
    ("logging", .table [("level", (f .logLevel).node)])]

def groupLayout (f : SettingKey → Held) : SettingGroup → Node
  | .recurrence =>
    .table [("default_tzid", (f .defaultZoneId).node), ("strict", (f .strict).node)]
  | .logging => .table [("level", (f .logLevel).node)]

def defaultValue : SettingKey → Scalar
  | .defaultZoneId => .text ({} : Settings).defaultZoneId
  | .strict => .boolean ({} : Settings).strict
  | .logLevel => .text ({} : Settings).logLevel

def defaultHeld (k : SettingKey) : Held :=
  ⟨defaultValue k, false⟩

theorem layout_defaultHeld : layout defaultHeld = defaults := rfl

variable (f : SettingKey → Held)

theorem find?_layout (g : SettingGroup) : (layout f).find? g.name = some (groupLayout f g) := by
  cases g <;> rfl

theorem put_layout {f' : SettingKey → Held} {g : SettingGroup}
    (h : ∀ k, k.group ≠ g → f' k = f k) :
    (layout f).put g.name (groupLayout f' g) = layout f' := by
  cases g with
  | recurrence =>
    have hlevel : f' .logLevel = f .logLevel := h .logLevel (by decide)
    simp only [layout, hlevel]
    rfl
  | logging =>
    have hzone : f' .defaultZoneId = f .defaultZoneId := h .defaultZoneId (by decide)
    have hstrict : f' .strict = f .strict := h .strict (by decide)
    simp only [layout, hzone, hstrict]
    rfl

theorem overlay_groupLayout (k : SettingKey) (held : Held) :
    (groupLayout f k.group).overlay k.name held.node =
      groupLayout (Function.update f k held) k.group := by
  cases k <;> rfl

/-- The places after the changes of a source, which come one after the other. -/
def changed (inEnvironment : Bool) (f : SettingKey → Held) (changes : List (SettingKey × Scalar)) :
    SettingKey → Held :=
  changes.foldl (fun f change => Function.update f change.1 ⟨change.2, inEnvironment⟩) f

variable {inEnvironment : Bool} {changes : List (SettingKey × Scalar)}

theorem changed_append (changes' : List (SettingKey × Scalar)) :
    changed inEnvironment f (changes ++ changes') =
      changed inEnvironment (changed inEnvironment f changes) changes' :=
  List.foldl_append ..

theorem changed_of_not_mem {k : SettingKey} (h : ∀ s, (k, s) ∉ changes) :
    changed inEnvironment f changes k = f k := by
  induction changes generalizing f with
  | nil => rfl
  | cons change changes ih =>
    have hne : k ≠ change.1 := by
      rintro rfl
      exact h change.2 List.mem_cons_self
    have hrest : ∀ s, (k, s) ∉ changes := fun s hs => h s (List.mem_cons_of_mem _ hs)
    rw [changed, List.foldl_cons, ← changed, ih _ hrest, Function.update_of_ne hne]

theorem changed_of_mem {k : SettingKey} {s : Scalar} (h : (k, s) ∈ changes)
    (hunique : ∀ s', (k, s') ∈ changes → s' = s) :
    changed inEnvironment f changes k = ⟨s, inEnvironment⟩ := by
  induction changes generalizing f with
  | nil => exact absurd h List.not_mem_nil
  | cons change changes ih =>
    have hrest : ∀ s', (k, s') ∈ changes → s' = s :=
      fun s' hs' => hunique s' (List.mem_cons_of_mem _ hs')
    rw [changed, List.foldl_cons, ← changed]
    by_cases hlater : (k, s) ∈ changes
    · exact ih _ hlater hrest
    · -- the change at hand is the last one of this place
      obtain rfl : (k, s) = change := (List.mem_cons.1 h).resolve_right hlater
      have hnone : ∀ s', (k, s') ∉ changes := fun s' hs' => hlater (hrest s' hs' ▸ hs')
      rw [changed_of_not_mem _ hnone, Function.update_self]

theorem changed_eq {assigned : SettingKey → Option Scalar}
    (h : ∀ k s, (k, s) ∈ changes ↔ assigned k = some s) (k : SettingKey) :
    changed inEnvironment f changes k = ((assigned k).map (⟨·, inEnvironment⟩)).getD (f k) := by
  cases hk : assigned k with
  | none =>
    refine changed_of_not_mem f fun s hs => ?_
    rw [h, hk] at hs
    exact nomatch hs
  | some s =>
    refine changed_of_mem f ((h k s).2 hk) fun s' hs' => ?_
    rw [h, hk] at hs'
    exact (Option.some.inj hs').symm

theorem pathOf_fullName (k : SettingKey) :
    pathOf k.fullName = [.key k.group.name, .key k.name] := by
  cases k <;> decide +kernel

theorem pathOf_groupName (g : SettingGroup) : pathOf g.name = [.key g.name] := by
  cases g <;> decide +kernel

theorem overlayAt_layout (k : SettingKey) (held : Held) :
    overlayAt held.node (pathOf k.fullName) (layout f) = layout (Function.update f k held) := by
  have hinside : overlayAt held.node [.key k.name] (groupLayout f k.group) =
      groupLayout (Function.update f k held) k.group := by
    rw [overlayAt, overlay_groupLayout]
  rw [pathOf_fullName, overlayAt.eq_def]
  simp only [find?_layout, Option.getD_some, hinside]
  refine put_layout f fun k' hk' => Function.update_of_ne ?_ _ _
  rintro rfl
  exact hk' rfl

theorem overlayPaths_settings :
    (layout f).overlayPaths (changes.map fun c => (c.1.fullName, .scalar c.2 inEnvironment)) =
      layout (changed inEnvironment f changes) := by
  induction changes generalizing f with
  | nil => rfl
  | cons change changes ih =>
    have hfirst := overlayAt_layout f change.1 ⟨change.2, inEnvironment⟩
    rw [Held.node] at hfirst
    rw [overlayPaths, List.map_cons, List.foldl_cons, ← overlayPaths, hfirst, ih]
    rfl

def entriesOf (inEnvironment : Bool) (changes : List (SettingKey × Scalar)) :
    List (String × Node) :=
  changes.map fun c => (c.1.name, .scalar c.2 inEnvironment)

theorem overlayAll_groupLayout {g : SettingGroup} (h : ∀ c ∈ changes, c.1.group = g) :
    overlayAll (groupLayout f g) (entriesOf inEnvironment changes) =
      groupLayout (changed inEnvironment f changes) g := by
  induction changes generalizing f with
  | nil => rfl
  | cons change changes ih =>
    obtain ⟨rfl, hrest⟩ := List.forall_mem_cons.1 h
    have hfirst := overlay_groupLayout f change.1 ⟨change.2, inEnvironment⟩
    rw [Held.node] at hfirst
    rw [entriesOf, List.map_cons, overlayAll, ← entriesOf, hfirst, ih _ hrest]
    rfl

theorem overlay_table {g : SettingGroup} (h : ∀ c ∈ changes, c.1.group = g) :
    overlayAt (.table (entriesOf inEnvironment changes)) (pathOf g.name) (layout f) =
      layout (changed inEnvironment f changes) := by
  rw [pathOf_groupName, overlayAt, Node.overlay, find?_layout, Option.getD_some,
    overlayAll_groupLayout f h]
  refine put_layout f fun k hk => changed_of_not_mem f fun s hs => hk ?_
  exact h _ hs

theorem overlayPaths_tables {tables : List (SettingGroup × List (SettingKey × Scalar))}
    (h : ∀ t ∈ tables, ∀ c ∈ t.2, c.1.group = t.1) :
    (layout f).overlayPaths
        (tables.map fun t => (t.1.name, .table (entriesOf inEnvironment t.2))) =
      layout (changed inEnvironment f (tables.flatMap Prod.snd)) := by
  induction tables generalizing f with
  | nil => rfl
  | cons t tables ih =>
    obtain ⟨hfirst, hrest⟩ := List.forall_mem_cons.1 h
    rw [overlayPaths, List.map_cons, List.foldl_cons, ← overlayPaths, overlay_table f hfirst,
      ih _ hrest, List.flatMap_cons, changed_append]

theorem group_layout (g : SettingGroup) : group (layout f) g.name = .ok (groupLayout f g) := by
  cases g <;> rfl

theorem entry_groupLayout {α : Type} (read : String → Node → Except TypeError α) (k : SettingKey) :
    entry read (groupLayout f k.group) k.group.name k.name =
      (read k.fullName (f k).node).mapError .type := by
  have hfind : (groupLayout f k.group).find? k.name = some (f k).node := by
    cases k <;> rfl
  have hname : k.group.name ++ "." ++ k.name = k.fullName := rfl
  simp only [entry, hfind, hname]
  cases read k.fullName (f k).node <;> rfl

theorem ofNode_layout :
    ofNode (layout f) =
      match (f .strict).value.toBool with
      | .error found =>
        .error (.type ⟨found, "a boolean", "recurrence.strict", (f .strict).inEnvironment⟩)
      | .ok strict =>
        let settings : Settings := {
          defaultZoneId := (f .defaultZoneId).value.toText
          strict
          logLevel := (f .logLevel).value.toText }
        settings.validate.map fun _ => settings := by
  have hrecurrence := group_layout f .recurrence
  have hlogging := group_layout f .logging
  have hzone := entry_groupLayout f Node.toText .defaultZoneId
  have hstrict := entry_groupLayout f Node.toBool .strict
  have hlevel := entry_groupLayout f Node.toText .logLevel
  dsimp only [SettingKey.group, SettingGroup.name, SettingKey.name] at hrecurrence hlogging
  dsimp only [SettingKey.group, SettingGroup.name, SettingKey.name] at hzone hstrict hlevel
  simp only [ofNode, hrecurrence, hlogging, hzone, hstrict, hlevel, Held.node, Node.toText,
    Node.toBool, bind, Except.bind]
  cases (f .strict).value.toBool with
  | error found => rfl
  | ok strict => rfl

end Settings

end Almanac
