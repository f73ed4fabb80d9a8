import Almanac.Line.Error
import Almanac.Line.Caret
import Almanac.Line.Property

/-!
Content lines: a name, parameters and a value, as in `NAME;PARAMETER=value,"value":text`. Quotes
hide the characters that separate; the value is everything after the first colon that is not hidden.
-/

namespace Almanac

structure Parameter where
  /-- In upper case. -/
  name : String
  values : List String
deriving DecidableEq

namespace Parameter

def ofValues (name : String) (values : List String) : Parameter :=
  ⟨Text.asciiUpper name, values⟩

def ofValue (name value : String) : Parameter :=
  ofValues name [value]

def value? (p : Parameter) : Option String :=
  p.values.head?

end Parameter

structure ContentLine where
  /-- In upper case. -/
  name : String
  parameters : List Parameter
  value : String
  /-- Bytes of the line before the value. -/
  valueOffset : Nat
deriving DecidableEq

namespace ContentLine

def parameterValue? (l : ContentLine) (name : String) : Option String :=
  (l.parameters.find? fun p => Text.asciiUpper p.name == Text.asciiUpper name).bind
    Parameter.value?

def zoneId? (l : ContentLine) : Option String :=
  l.parameterValue? "TZID"

def valueType? (l : ContentLine) : Option String :=
  l.parameterValue? "VALUE"

def property? (l : ContentLine) : Option Property :=
  Property.ofName? l.name

def valueColumn (l : ContentLine) : Nat :=
  l.valueOffset + 1

def isNameChar (c : Char) : Bool :=
  c.isAlphanum || c == '-'

def badNameOffset? (cs : List Char) : Option Nat :=
  if cs.all isNameChar then none else some (Text.byteLength (cs.takeWhile isNameChar))

/-- What stands before and after the first colon outside quotes. Failing that, the offset of a quote
that is still open at the end. -/
def cutHead (quote : Option Nat) (offset : Nat) :
    List Char → Except (Option Nat) (List Char × List Char)
  | [] => .error quote
  | c :: cs =>
    if c = ':' ∧ quote = none then .ok ([], cs)
    else
      let quote :=
        if c = '"' then (match quote with
          | none => some offset
          | some _ => none)
        else quote
      match cutHead quote (offset + c.utf8Size) cs with
      | .ok (head, value) => .ok (c :: head, value)
      | .error quote => .error quote

def splitUnquoted (separator : Char) (quoted : Bool) : List Char → List (List Char)
  | [] => [[]]
  | c :: cs =>
    if c = separator ∧ quoted = false then [] :: splitUnquoted separator false cs
    else match splitUnquoted separator (quoted != (c == '"')) cs with
      | [] => [[c]]
      | piece :: pieces => (c :: piece) :: pieces

/-- Pairs each piece with its byte offset, one byte of separator standing between two. -/
def withOffsets (offset : Nat) : List (List Char) → List (Nat × List Char)
  | [] => []
  | piece :: pieces =>
    (offset, piece) :: withOffsets (offset + Text.byteLength piece + 1) pieces

def readValue? (raw : List Char) : Option String :=
  let inner? :=
    match raw with
    | '"' :: rest => if rest.getLast? = some '"' then some rest.dropLast else none
    | _ => some raw
  inner?.bind fun inner =>
    if inner.contains '"' then none else some (String.ofList (Caret.decode inner))

/-- Reads the values of a parameter; the error is the offset of the first bad one, and its text. -/
def readValues : List (Nat × List Char) → Except (Nat × List Char) (List String)
  | [] => .ok []
  | (offset, raw) :: rest =>
    match readValue? raw with
    | none => .error (offset, raw)
    | some value => (readValues rest).map (value :: ·)

def readParameter (number offset : Nat) (segment : List Char) : Except LineError Parameter :=
  let invalid (offset : Nat) : LineError :=
    { fault := .invalidParameter, line := number, column := offset + 1 }
  match Text.cut? (· == '=') segment with
  | none => .error (invalid offset)
  | some (name, values) =>
    if name = [] then .error (invalid offset)
    else match badNameOffset? name with
      | some bad => .error (invalid (offset + bad))
      | none =>
        let start := offset + Text.byteLength name + 1
        match readValues (withOffsets start (splitUnquoted ',' false values)) with
        | .ok values => .ok (Parameter.ofValues (String.ofList name) values)
        | .error (bad, raw) =>
          let context := "malformed value `" ++ String.ofList raw ++ "`"
          .error { invalid bad with context := some context }

def readParameters (number : Nat) : List (Nat × List Char) → Except LineError (List Parameter)
  | [] => .ok []
  | (offset, segment) :: rest => do
    let parameter ← readParameter number offset segment
    let parameters ← readParameters number rest
    return parameter :: parameters

def parse (line : String) (number : Nat) : Except LineError ContentLine :=
  let fault (fault : LineFault) (column : Nat) : LineError := { fault, line := number, column }
  match cutHead none 0 line.toList with
  | .error (some quote) => .error (fault .unclosedQuote (quote + 1))
  | .error none => .error (fault .missingColon (Text.byteLength line.toList))
  | .ok (head, value) =>
    match withOffsets 0 (splitUnquoted ';' false head) with
    | [] => .error (fault .missingPropertyName 1)
    | (_, name) :: segments =>
      if name = [] then .error (fault .missingPropertyName 1)
      else match badNameOffset? name with
        | some bad => .error (fault .invalidPropertyName (bad + 1))
        | none => do
          let parameters ← readParameters number segments
          return {
            name := Text.asciiUpper (String.ofList name)
            parameters
            value := String.ofList value
            valueOffset := Text.byteLength head + 1 }

end ContentLine

end Almanac
