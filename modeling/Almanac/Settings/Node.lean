import Almanac.Toml.Value
import Almanac.Text.Quoted

/-!
Configuration values, before it is known what each is for, and how one source is laid over another. A
value can be asked for as a truth value or as a text; numbers and words then stand in for truth
values, and numbers for texts.
-/

namespace Almanac.Settings

inductive Scalar
  | text (s : String)
  | integer (n : Int)
  | float (d : Double)
  | boolean (b : Bool)
deriving DecidableEq

inductive Node
  /-- A value, and whether it comes from the environment. -/
  | scalar (s : Scalar) (inEnvironment : Bool)
  | list
  | table (entries : List (String × Node))

inductive Step
  | key (name : String)
  | index
deriving DecidableEq

namespace Node

def entries : Node → List (String × Node)
  | table es => es
  | _ => []

def find? (root : Node) (key : String) : Option Node :=
  root.entries.lookup key

def put (root : Node) (key : String) (value : Node) : Node :=
  let es := root.entries
  if (es.lookup key).isSome then table (es.map fun e => if e.1 == key then (key, value) else e)
  else table (es ++ [(key, value)])

mutual

/-- Lays a value over what stands under a key: a table entry by entry, anything else in its place. -/
def overlay (root : Node) (key : String) : Node → Node
  | table incoming =>
    root.put key (overlayAll ((root.find? key).getD (table [])) incoming)
  | scalar s inEnvironment => root.put key (scalar s inEnvironment)
  | list => root.put key list

def overlayAll (root : Node) : List (String × Node) → Node
  | [] => root
  | (key, value) :: rest => overlayAll (overlay root key value) rest

end

/-- Lays a value over what stands at the end of a path, making tables and lists on the way. -/
def overlayAt (value : Node) : List Step → Node → Node
  | [], root => root
  | [.key name], root => root.overlay name value
  | .key name :: path, root =>
    root.put name (overlayAt value path ((root.find? name).getD (table [])))
  | .index :: _, _ => list

def isNameChar (c : Char) : Bool :=
  c.isAlphanum || c == '_' || c == '-'

/-- The steps of a path after its first name. -/
def readSteps? : Nat → List Char → Option (List Step)
  | _, [] => some []
  | 0, _ => none
  | limit + 1, '.' :: cs =>
    let name := cs.takeWhile isNameChar
    if name = [] then none
    else (readSteps? limit (cs.drop name.length)).map (.key (String.ofList name) :: ·)
  | limit + 1, '[' :: cs =>
    match Text.cut? (· == ']') cs with
    | some (index, rest) =>
      if (Text.readSigned? index).isSome ∧ index.head? ≠ some '+' then
        (readSteps? limit rest).map (.index :: ·)
      else none
    | none => none
  | _, _ => none

/-- The path that a key stands for; a key that is no path is one name. -/
def pathOf (key : String) : List Step :=
  let cs := key.toList
  let name := cs.takeWhile isNameChar
  if name = [] then [.key key]
  else match readSteps? cs.length (cs.drop name.length) with
    | some path => .key (String.ofList name) :: path
    | none => [.key key]

def overlayPaths (root : Node) (entries : List (String × Node)) : Node :=
  entries.foldl (fun root e => overlayAt e.2 (pathOf e.1) root) root

mutual

def ofToml : Toml.Value → Node
  | .text s => scalar (.text s) false
  | .integer n => scalar (.integer n) false
  | .float d => scalar (.float d) false
  | .boolean b => scalar (.boolean b) false
  | .time s => scalar (.text s) false
  | .list _ => list
  | .tables _ => list
  | .table _ entries => table (ofTomlEntries entries)

def ofTomlEntries : List (String × Toml.Value) → List (String × Node)
  | [] => []
  | (key, value) :: rest => (key, ofToml value) :: ofTomlEntries rest

end

end Node

/-- What a value turns out to be where another kind is asked for. -/
structure TypeError where
  found : String
  expected : String
  key : String
  inEnvironment : Bool
deriving DecidableEq

namespace TypeError

def message (e : TypeError) : String :=
  "invalid type: " ++ e.found ++ ", expected " ++ e.expected ++ " for key `" ++ e.key ++ "`"
    ++ if e.inEnvironment then " in the environment" else ""

end TypeError

namespace Scalar

def trueWords : List String := ["1", "true", "on", "yes"]

def falseWords : List String := ["0", "false", "off", "no"]

def toBool : Scalar → Except String Bool
  | boolean b => .ok b
  | integer n => .ok (n ≠ 0)
  | float d => .ok (!d.isZero)
  | text s =>
    let word := Text.toLower s.toList
    if trueWords.contains (String.ofList word) then .ok true
    else if falseWords.contains (String.ofList word) then .ok false
    else .error ("string " ++ String.ofList (Text.quoted word))

def toText : Scalar → String
  | text s => s
  | boolean b => if b then "true" else "false"
  | integer n => toString n
  | float d => String.ofList d.written

end Scalar

namespace Node

def toBool (key : String) : Node → Except TypeError Bool
  | scalar s inEnvironment =>
    match s.toBool with
    | .ok b => .ok b
    | .error found => .error ⟨found, "a boolean", key, inEnvironment⟩
  | list => .error ⟨"sequence", "a boolean", key, false⟩
  | table _ => .error ⟨"map", "a boolean", key, false⟩

def toText (key : String) : Node → Except TypeError String
  | scalar s _ => .ok s.toText
  | list => .error ⟨"sequence", "a string", key, false⟩
  | table _ => .error ⟨"map", "a string", key, false⟩

end Node

end Almanac.Settings
