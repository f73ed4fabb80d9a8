import Almanac.Proofs.Settings.Layers
import Almanac.Proofs.Toml.Written
import Almanac.Settings.Environment
import Mathlib.Data.List.Forall2

/-! Settings that are assigned values, in the environment or in a document. Whichever of the two
holds the assignment, the settings are the same, or both sources are refused for the same reason:
`Assignment.sources_agree`. -/

namespace Almanac

theorem SettingGroup.isBareKey_name (g : SettingGroup) : Toml.IsBareKey g.name.toList := by
  cases g <;> exact ⟨by decide, List.all_eq_true.1 (by decide)⟩

namespace SettingKey

theorem isBareKey_name (k : SettingKey) : Toml.IsBareKey k.name.toList := by
  cases k <;> exact ⟨by decide, List.all_eq_true.1 (by decide)⟩

def variableName : SettingKey → String
  | defaultZoneId => "RECUR_RECURRENCE__DEFAULT_TZID"
  | strict => "RECUR_RECURRENCE__STRICT"
  | logLevel => "RECUR_LOGGING__LEVEL"

theorem keyOfVariable?_variableName (k : SettingKey) :
    Settings.keyOfVariable? k.variableName = some k.fullName := by
  cases k <;> decide +kernel

end SettingKey

/-- A text that reads neither as a truth value nor as a number. -/
structure IsPlainText (s : String) : Prop where
  ne_empty : s ≠ ""
  noBoolean : String.ofList (Text.toLower s.toList) ∉ ["true", "false"]
  noInteger : ∀ n, Text.readSigned? s.toList = some n → Settings.isSixtyFourBit n = false
  noFloat : Double.read? s.toList = none

inductive SettingValue
  | boolean (b : Bool)
  | integer (n : Int) (fits : Settings.isSixtyFourBit n = true)
  | text (s : String) (isPlain : IsPlainText s)

namespace SettingValue

open Settings (Scalar scalarOfVariable)

def scalar : SettingValue → Scalar
  | boolean b => .boolean b
  | integer n _ => .integer n
  | text s _ => .text s

def toml : SettingValue → Toml.Value
  | boolean b => .boolean b
  | integer n _ => .integer n
  | text s _ => .text s

def Spelled (t : String) : SettingValue → Prop
  | boolean b => String.ofList (Text.toLower t.toList) = if b then "true" else "false"
  | integer n _ => Text.readSigned? t.toList = some n
  | text s _ => t = s

def written : SettingValue → String
  | boolean b => if b then "true" else "false"
  | integer n _ => String.ofList (Text.writeInt n)
  | text s _ => s

theorem spelled_written (v : SettingValue) : v.Spelled v.written := by
  cases v with
  | boolean b =>
    rw [Spelled, written]
    cases b <;> decide +kernel
  | integer n fits =>
    rw [Spelled, written, String.toList_ofList]
    exact Text.readSigned?_writeInt n
  | text s isPlain => rfl

theorem exists_toLower_cons {c : Char} (h : c.toNat < 58) (cs : List Char) :
    ∃ rest, Text.toLower (c :: cs) = c :: rest := by
  have hlower : ∀ n < 58, (Char.ofNat n).toLower = Char.ofNat n := by decide +kernel
  have hsame : Text.lowerOfChar c = [c] := by
    rw [Text.lowerOfChar, if_pos (by omega)]
    rw [← Char.ofNat_toNat c, hlower c.toNat h]
  have hsigma : c ≠ 'Σ' := by
    rintro rfl
    exact absurd h (by decide)
  refine ⟨Text.toLowerAfter [c] cs, ?_⟩
  rw [Text.toLower, Text.toLowerAfter, if_neg hsigma, hsame]
  rfl

theorem scalarOfVariable_of_spelled {v : SettingValue} {t : String} (h : v.Spelled t) :
    t ≠ "" ∧ scalarOfVariable t = v.scalar := by
  cases v with
  | boolean b =>
    rw [Spelled] at h
    refine ⟨?_, ?_⟩
    · rintro rfl
      revert h
      cases b <;> decide +kernel
    · simp only [scalarOfVariable, h]
      cases b <;> rfl
  | integer n fits =>
    rw [Spelled] at h
    obtain ⟨c, cs, hcs, hc⟩ := Text.exists_cons_of_readSigned? h
    obtain ⟨rest, hlower⟩ := exists_toLower_cons hc cs
    -- a sign or a digit begins the text, in lower case too, and a letter the words
    have hword {word : String} {d : Char} {ds : List Char} (hword : word.toList = d :: ds)
        (hd : 58 ≤ d.toNat) : String.ofList (Text.toLower t.toList) ≠ word := by
      rintro rfl
      rw [String.toList_ofList, hcs, hlower] at hword
      obtain ⟨rfl, -⟩ := List.cons.inj hword
      omega
    have htrue : String.ofList (Text.toLower t.toList) ≠ "true" :=
      hword rfl (by decide : 58 ≤ 't'.toNat)
    have hfalse : String.ofList (Text.toLower t.toList) ≠ "false" :=
      hword rfl (by decide : 58 ≤ 'f'.toNat)
    refine ⟨?_, ?_⟩
    · rintro rfl
      exact nomatch hcs
    · simp only [scalarOfVariable, if_neg htrue, if_neg hfalse, h, Option.filter_some_pos fits]
      rfl
  | text s isPlain =>
    obtain rfl : t = s := h
    have hwords := isPlain.noBoolean
    rw [List.mem_pair, not_or] at hwords
    have hnumber : (Text.readSigned? t.toList).filter Settings.isSixtyFourBit = none := by
      rw [Option.filter_eq_none_iff]
      exact fun n hn => Bool.not_eq_true _ ▸ isPlain.noInteger n hn
    refine ⟨isPlain.ne_empty, ?_⟩
    simp only [scalarOfVariable, if_neg hwords.1, if_neg hwords.2, hnumber, isPlain.noFloat]
    rfl

def tomlText : SettingValue → List Char
  | boolean b => Toml.writeBoolean b
  | integer n _ => Text.writeInt n
  | text s _ => Toml.writeText s.toList

theorem readsAs_tomlText (v : SettingValue) : Toml.ReadsAs v.tomlText v.toml := by
  cases v with
  | boolean b => exact Toml.readsAs_writeBoolean b
  | integer n fits =>
    refine Toml.readsAs_writeInt ?_
    simpa [Settings.isSixtyFourBit] using fits
  | text s isPlain =>
    have hne : s.toList ≠ [] := fun h => isPlain.ne_empty (String.toList_eq_nil_iff.1 h)
    have hread := Toml.readsAs_writeText hne
    rwa [String.ofList_toList] at hread

theorem ofToml_toml (v : SettingValue) : Settings.Node.ofToml v.toml = .scalar v.scalar false := by
  cases v <;> rfl

end SettingValue

namespace Settings

structure Assignment where
  value? : SettingKey → Option SettingValue

/-- A table of a document that holds settings of its group. -/
structure SettingTable where
  group : SettingGroup
  /-- How the table came to be. -/
  kind : Toml.TableKind
  settings : List (SettingKey × SettingValue)
  belongs : ∀ setting ∈ settings, setting.1.group = group

namespace SettingTable

def entry (t : SettingTable) : String × Toml.Value :=
  (t.group.name, .table t.kind (t.settings.map fun setting => (setting.1.name, setting.2.toml)))

end SettingTable

namespace Assignment

variable (a : Assignment)

def assigned : List (SettingKey × SettingValue) :=
  [.defaultZoneId, .strict, .logLevel].filterMap fun k => (a.value? k).map (k, ·)

/-- The variables of the library, among those of the environment, are the ones that spell the
assignment, in whatever order. -/
def InEnvironment (env : List (String × String)) : Prop :=
  ∃ settings : List (SettingKey × SettingValue), settings.Perm a.assigned ∧
    List.Forall₂ (fun entry setting => entry.1 = setting.1.variableName ∧ setting.2.Spelled entry.2)
      (env.filter fun entry => (keyOfVariable? entry.1).isSome) settings

/-- The document holds the assignment, in whatever tables and order, and nothing besides. -/
def InDocument (text : String) : Prop :=
  ∃ tables : List SettingTable, Toml.read? text = some (tables.map SettingTable.entry) ∧
    (tables.flatMap SettingTable.settings).Perm a.assigned

def environment : List (String × String) :=
  a.assigned.map fun setting => (setting.1.variableName, setting.2.written)

def line (setting : SettingKey × SettingValue) : Toml.DottedLine where
  table := setting.1.group.name.toList
  key := setting.1.name.toList
  chars := setting.2.tomlText
  value := setting.2.toml
  isBareTable := setting.1.group.isBareKey_name
  isBareKey := setting.1.isBareKey_name
  readsAs := setting.2.readsAs_tomlText

def document : String :=
  String.ofList ((a.assigned.map line).flatMap Toml.DottedLine.text)

def scalar (k : SettingKey) : Scalar :=
  ((a.value? k).map SettingValue.scalar).getD (defaultValue k)

/-- The settings are those that are assigned, and the defaults for the others. -/
structure Gives (s : Settings) : Prop where
  defaultZoneId : s.defaultZoneId = (a.scalar .defaultZoneId).toText
  strict : (a.scalar .strict).toBool = .ok s.strict
  logLevel : s.logLevel = (a.scalar .logLevel).toText

theorem mem_assigned {k : SettingKey} {v : SettingValue} :
    (k, v) ∈ a.assigned ↔ a.value? k = some v := by
  cases k <;> simp [assigned]

variable {a} {settings : List (SettingKey × SettingValue)}

def changes (settings : List (SettingKey × SettingValue)) : List (SettingKey × Scalar) :=
  settings.map fun setting => (setting.1, setting.2.scalar)

theorem mem_changes_iff (h : settings.Perm a.assigned) (k : SettingKey) (s : Scalar) :
    (k, s) ∈ changes settings ↔ (a.value? k).map SettingValue.scalar = some s := by
  simp [changes, h.mem_iff, mem_assigned, Option.map_eq_some_iff]

theorem ofNode_changed (h : settings.Perm a.assigned) (inEnvironment : Bool) :
    ofNode (layout (changed inEnvironment defaultHeld (changes settings))) =
      match (a.scalar .strict).toBool with
      | .error found => .error (.type ⟨found, "a boolean", "recurrence.strict", inEnvironment⟩)
      | .ok strict =>
        let settings : Settings := {
          defaultZoneId := (a.scalar .defaultZoneId).toText
          strict
          logLevel := (a.scalar .logLevel).toText }
        settings.validate.map fun _ => settings := by
  have hheld (k : SettingKey) : changed inEnvironment defaultHeld (changes settings) k =
      (((a.value? k).map SettingValue.scalar).map (⟨·, inEnvironment⟩)).getD (defaultHeld k) :=
    changed_eq defaultHeld (mem_changes_iff h) k
  have hvalue (k : SettingKey) :
      (changed inEnvironment defaultHeld (changes settings) k).value = a.scalar k := by
    rw [hheld, scalar]
    cases a.value? k <;> rfl
  rw [ofNode_layout, hvalue, hvalue, hvalue]
  cases hstrict : (a.scalar .strict).toBool with
  | error found =>
    -- the default is a truth value, so that what is none has been assigned
    have hassigned : ∃ v, a.value? .strict = some v := by
      cases hnone : a.value? .strict with
      | none =>
        rw [scalar, hnone] at hstrict
        exact nomatch hstrict
      | some v => exact ⟨v, rfl⟩
    obtain ⟨v, hv⟩ := hassigned
    rw [hheld, hv]
    rfl
  | ok strict => rfl

def setting? (entry : String × String) : Option (String × Node) :=
  if entry.2 = "" then none
  else (keyOfVariable? entry.1).map fun key => (key, .scalar (scalarOfVariable entry.2) true)

theorem setting?_eq_none {entry : String × String}
    (h : ¬((keyOfVariable? entry.1).isSome = true)) : setting? entry = none := by
  rw [setting?, Option.not_isSome_iff_eq_none.1 h]
  split <;> rfl

theorem setting?_of_spelled {entry : String × String} {setting : SettingKey × SettingValue}
    (h : entry.1 = setting.1.variableName ∧ setting.2.Spelled entry.2) :
    setting? entry = some (setting.1.fullName, .scalar setting.2.scalar true) := by
  obtain ⟨hname, hspelled⟩ := h
  obtain ⟨hne, hscalar⟩ := SettingValue.scalarOfVariable_of_spelled hspelled
  rw [setting?, if_neg hne, hname, SettingKey.keyOfVariable?_variableName, hscalar]
  rfl

theorem ofEnvironment_eq {env : List (String × String)} (h : a.InEnvironment env) :
    ∃ settings, settings.Perm a.assigned ∧ ofEnvironment env =
      ofNode (layout (changed true defaultHeld (changes settings))) := by
  obtain ⟨settings, hperm, hspelled⟩ := h
  refine ⟨settings, hperm, ?_⟩
  have hmarked : env.filterMap setting? =
      (env.filter fun entry => (keyOfVariable? entry.1).isSome).filterMap setting? := by
    rw [List.filterMap_filter]
    refine List.filterMap_congr fun entry _ => ?_
    split
    · rfl
    · next hunmarked => exact setting?_eq_none hunmarked
  have hentries {vars : List (String × String)} {settings : List (SettingKey × SettingValue)}
      (h : List.Forall₂ (fun entry setting =>
        entry.1 = setting.1.variableName ∧ setting.2.Spelled entry.2) vars settings) :
      vars.filterMap setting? =
        (changes settings).map fun c => (c.1.fullName, .scalar c.2 true) := by
    induction h with
    | nil => rfl
    | cons hfirst _ ih =>
      rw [List.filterMap_cons_some (setting?_of_spelled hfirst), ih]
      rfl
  have hlayers : ofEnvironment env =
      ofNode ((layout defaultHeld).overlayPaths (env.filterMap setting?)) := rfl
  rw [hlayers, hmarked, hentries hspelled, overlayPaths_settings]

theorem ofTomlEntries_eq_map (es : Toml.Entries) :
    Node.ofTomlEntries es = es.map fun e => (e.1, Node.ofToml e.2) := by
  induction es with
  | nil => rfl
  | cons e es ih => rw [Node.ofTomlEntries, ih, List.map_cons]

theorem ofToml_eq {text : String} (h : a.InDocument text) :
    ∃ settings, settings.Perm a.assigned ∧ Settings.ofToml text =
      ofNode (layout (changed false defaultHeld (changes settings))) := by
  obtain ⟨tables, hread, hperm⟩ := h
  refine ⟨_, hperm, ?_⟩
  have htable (t : SettingTable) : (t.entry.1, Node.ofToml t.entry.2) =
      (t.group.name, .table (entriesOf false (changes t.settings))) := by
    rw [SettingTable.entry, Node.ofToml, ofTomlEntries_eq_map, entriesOf, changes, List.map_map,
      List.map_map]
    simp only [Function.comp_def, SettingValue.ofToml_toml]
  have hentries : Node.ofTomlEntries (tables.map SettingTable.entry) =
      (tables.map fun t => (t.group, changes t.settings)).map
        fun t => (t.1.name, .table (entriesOf false t.2)) := by
    rw [ofTomlEntries_eq_map, List.map_map, List.map_map]
    exact List.map_congr_left fun t _ => htable t
  have hbelongs : ∀ t ∈ tables.map fun t => (t.group, changes t.settings),
      ∀ c ∈ t.2, c.1.group = t.1 :=
    List.forall_mem_map.2 fun t _ => List.forall_mem_map.2 fun setting hs => t.belongs setting hs
  have hchanges : (tables.map fun t => (t.group, changes t.settings)).flatMap Prod.snd =
      changes (tables.flatMap SettingTable.settings) := by
    rw [List.flatMap_map, changes, List.map_flatMap]
    rfl
  simp only [Settings.ofToml, hread, hentries, ← layout_defaultHeld]
  rw [overlayPaths_tables defaultHeld hbelongs, hchanges]

theorem inEnvironment_environment (a : Assignment) : a.InEnvironment a.environment := by
  refine ⟨a.assigned, List.Perm.refl _, ?_⟩
  have hmarked : a.environment.filter (fun entry => (keyOfVariable? entry.1).isSome) =
      a.environment := by
    rw [List.filter_eq_self]
    refine List.forall_mem_map.2 fun setting _ => ?_
    rw [SettingKey.keyOfVariable?_variableName]
    rfl
  rw [hmarked, environment, List.forall₂_map_left_iff, List.forall₂_same]
  exact fun setting _ => ⟨rfl, setting.2.spelled_written⟩

def dottedTable (settings : List (SettingKey × SettingValue)) (g : SettingGroup) :
    SettingTable where
  group := g
  kind := .dotted
  settings := settings.filter fun setting => setting.1.group = g
  belongs _ hsetting := of_decide_eq_true (List.mem_filter.1 hsetting).2

def dottedTables (settings : List (SettingKey × SettingValue)) : List SettingTable :=
  ([.recurrence, .logging].map (dottedTable settings)).filter fun t => t.settings ≠ []

theorem inDocument_document (a : Assignment) : a.InDocument a.document := by
  have hassigned : a.assigned =
      ((a.value? .defaultZoneId).toList.map (SettingKey.defaultZoneId, ·) ++
        (a.value? .strict).toList.map (SettingKey.strict, ·)) ++
      (a.value? .logLevel).toList.map (SettingKey.logLevel, ·) := by
    rw [assigned]
    cases hzone : a.value? .defaultZoneId <;> cases hstrict : a.value? .strict <;>
      cases hlevel : a.value? .logLevel <;> simp [hzone, hstrict, hlevel]
  have hset (es : Toml.Entries) (setting : SettingKey × SettingValue) :
      Toml.DottedLine.set es (line setting) =
        es.put setting.2.toml [setting.1.group.name, setting.1.name] := by
    rw [Toml.DottedLine.set, line, String.ofList_toList, String.ofList_toList]
  refine ⟨dottedTables a.assigned, ?_, ?_⟩
  · rw [document, Toml.DottedLine.read?_flatMap_text, List.foldlM_map]
    simp only [hset, hassigned]
    cases a.value? .defaultZoneId <;> cases a.value? .strict <;> cases a.value? .logLevel <;> rfl
  · rw [hassigned]
    cases a.value? .defaultZoneId <;> cases a.value? .strict <;> cases a.value? .logLevel <;>
      exact List.Perm.refl _

/-- Every assignment can stand in the environment and in a document. Wherever it stands, both
sources give the same settings, those that are assigned and the defaults for the others; or both are
refused for a word that is no truth value; or both for a blank zone. -/
theorem sources_agree (a : Assignment) :
    a.InEnvironment a.environment ∧ a.InDocument a.document ∧
      ∀ env text, a.InEnvironment env → a.InDocument text →
        (∃ s, a.Gives s ∧ ofEnvironment env = .ok s ∧ Settings.ofToml text = .ok s) ∨
        (∃ found, (a.scalar .strict).toBool = .error found ∧
          ofEnvironment env = .error (.type ⟨found, "a boolean", "recurrence.strict", true⟩) ∧
          Settings.ofToml text = .error (.type ⟨found, "a boolean", "recurrence.strict", false⟩)) ∨
        (Text.isAllBlank (a.scalar .defaultZoneId).toText.toList = true ∧
          (∃ b, (a.scalar .strict).toBool = .ok b) ∧
          ofEnvironment env = .error .blankDefaultZone ∧
          Settings.ofToml text = .error .blankDefaultZone) := by
  refine ⟨a.inEnvironment_environment, a.inDocument_document, fun env text henv htext => ?_⟩
  obtain ⟨settings, hsettings, hofEnv⟩ := ofEnvironment_eq henv
  obtain ⟨settings', hsettings', hofToml⟩ := ofToml_eq htext
  rw [hofEnv, hofToml, ofNode_changed hsettings, ofNode_changed hsettings']
  cases hstrict : (a.scalar .strict).toBool with
  | error found => exact Or.inr (Or.inl ⟨found, rfl, rfl, rfl⟩)
  | ok strict =>
    by_cases hblank : Text.isAllBlank (a.scalar .defaultZoneId).toText.toList = true
    · refine Or.inr (Or.inr ⟨hblank, ⟨strict, rfl⟩, ?_, ?_⟩) <;>
        simp [validate, hblank, Except.map]
    · refine Or.inl ⟨⟨(a.scalar .defaultZoneId).toText, strict, (a.scalar .logLevel).toText⟩,
        ⟨rfl, hstrict, rfl⟩, ?_, ?_⟩ <;>
        simp [validate, hblank, Except.map]

def sample : Assignment where
  value?
    | .defaultZoneId => some (.text "Europe/Paris" {
        ne_empty := by decide
        noBoolean := by decide +kernel
        noInteger := fun n h => nomatch h
        noFloat := by decide +kernel })
    | .strict => some (.integer 2 (by decide))
    | .logLevel => none

/-- Other variables do not matter, nor do the order and the way a number is written. -/
theorem sources_agree_sample :
    let env := [("RECUR_RECURRENCE__STRICT", "+2"), ("HOME", "/"),
      ("RECUR_RECURRENCE__DEFAULT_TZID", "Europe/Paris")]
    sample.InEnvironment env ∧ sample.InDocument sample.document ∧
      ∃ s, sample.Gives s ∧ ofEnvironment env = .ok s ∧
        Settings.ofToml sample.document = .ok s := by
  intro env
  have hmarked : (env.filter fun entry => (keyOfVariable? entry.1).isSome) =
      [("RECUR_RECURRENCE__STRICT", "+2"), ("RECUR_RECURRENCE__DEFAULT_TZID", "Europe/Paris")] := by
    decide +kernel
  have hstrict : Text.readSigned? "+2".toList = some 2 := by decide
  have henv : sample.InEnvironment env := by
    refine ⟨sample.assigned.reverse, List.reverse_perm _, ?_⟩
    rw [hmarked]
    exact .cons ⟨rfl, hstrict⟩ (.cons ⟨rfl, rfl⟩ .nil)
  obtain ⟨-, hdocument, hagree⟩ := sources_agree sample
  rcases hagree env sample.document henv hdocument with
    hgives | ⟨found, hfound, -⟩ | ⟨hblank, -⟩
  · exact ⟨henv, hdocument, hgives⟩
  · exact nomatch hfound
  · exact absurd hblank (by decide)

end Assignment

end Settings

end Almanac
