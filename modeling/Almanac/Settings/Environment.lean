import Almanac.Settings.Basic

/-!
Settings from the environment. A variable counts if its name begins with the mark of the library; two
underscores in the rest of the name lead into a table. Values are read as truth values or numbers
where they look like one.
-/

namespace Almanac.Settings

/-- The beginning of the names that count, in lower case. -/
def variableMark : List Char := "recur_".toList

/-- Turns every two underscores into a dot. -/
def dotted : List Char → List Char
  | '_' :: '_' :: cs => '.' :: dotted cs
  | c :: cs => c :: dotted cs
  | [] => []

def keyOfVariable? (name : String) : Option String :=
  (Text.stripPrefix? variableMark (Text.toLower name.toList)).map fun rest =>
    String.ofList (dotted rest)

def isSixtyFourBit (n : Int) : Bool :=
  -9223372036854775808 ≤ n && n ≤ 9223372036854775807

def scalarOfVariable (value : String) : Scalar :=
  let cs := value.toList
  let word := String.ofList (Text.toLower cs)
  if word = "true" then .boolean true
  else if word = "false" then .boolean false
  else match (Text.readSigned? cs).filter isSixtyFourBit with
    | some n => .integer n
    | none =>
      match Double.read? cs with
      | some d => .float d
      | none => .text value

def ofEnvironment (assignments : List (String × String)) : Except SettingsError Settings :=
  let entries := assignments.filterMap fun (name, value) =>
    if value = "" then none
    else (keyOfVariable? name).map fun key => (key, Node.scalar (scalarOfVariable value) true)
  ofNode (defaults.overlayPaths entries)

end Almanac.Settings
