import Almanac.Text.Basic

/-!
Log filters: items between commas, each a level, a target, or a target and a level joined by `=`. A
span in square brackets may follow the target or stand in its place.
-/

namespace Almanac.LogFilter

def levelNames : List String :=
  ["off", "error", "warn", "info", "debug", "trace", "0", "1", "2", "3", "4", "5"]

/-- A level by name or number, or nothing at all. -/
def isLevel (cs : List Char) : Bool :=
  cs.isEmpty || levelNames.contains (Text.asciiLower (String.ofList cs))

def isNameChar (c : Char) : Bool :=
  c.isAlphanum || c == '-' || c == ':' || c == '_' || 128 ≤ c.toNat

def isSpanEnd : List Char → Bool
  | [] => true
  | '=' :: level => isLevel level
  | _ => false

/-- Whether a span closes, with nothing but names and one list of fields in it. -/
def isSpan (cs : List Char) : Bool :=
  match cs.dropWhile isNameChar with
  | ']' :: rest => isSpanEnd rest
  | '\x7b' :: fields =>
    match Text.cut? (· == '\x7d') fields with
    | some (_, ']' :: rest) => isSpanEnd rest
    | _ => false
  | _ => false

def isItem (cs : List Char) : Bool :=
  match cs with
  | [] => true
  | '[' :: span => isSpan span
  | c :: _ =>
    isNameChar c &&
      match cs.dropWhile fun c => c != '=' && c != '[' with
      | '=' :: level => isLevel level
      | '[' :: span => isSpan span
      | _ => true

def isValid (text : String) : Bool :=
  (text.toList.splitOn ',').all isItem

end Almanac.LogFilter
