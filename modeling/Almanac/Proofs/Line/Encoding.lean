import Almanac.Proofs.Line.Grammar

/-! Lines written for other programs. Each value of a parameter is written with its escapes and
between quotes, so that it may hold any characters: colons, semicolons, commas, quotes, carets and
line breaks. Such a line reads back as what was written: `parse_encode`. -/

namespace Almanac

structure ParameterParts where
  name : WrittenName
  values : List String
  values_ne_nil : values ≠ []

structure LineParts where
  name : WrittenName
  parameters : List ParameterParts
  value : String

namespace WrittenValue

/-- The escapes leave no quote that could end the value. -/
def encode (value : String) : WrittenValue :=
  quoted (Caret.encode value.toList) (Caret.quote_not_mem_encode _)

@[simp] theorem meaning_encode (value : String) : (encode value).meaning = value := by
  rw [meaning, encode, inner, Caret.decode_encode, String.ofList_toList]

end WrittenValue

namespace ParameterParts

def encode (p : ParameterParts) : WrittenParameter where
  name := p.name
  values := p.values.map WrittenValue.encode
  values_ne_nil := mt List.map_eq_nil_iff.1 p.values_ne_nil

@[simp] theorem meaning_encode (p : ParameterParts) :
    p.encode.meaning = Parameter.ofValues (String.ofList p.name.chars) p.values := by
  have hvalues : (p.values.map WrittenValue.encode).map WrittenValue.meaning = p.values := by
    rw [List.map_map]
    exact List.map_id'' WrittenValue.meaning_encode p.values
  rw [WrittenParameter.meaning, encode, Parameter.ofValues, hvalues]

end ParameterParts

namespace LineParts

def encode (l : LineParts) : WrittenLine where
  name := l.name
  parameters := l.parameters.map ParameterParts.encode
  value := l.value.toList

theorem meaning_encode (l : LineParts) :
    l.encode.meaning =
      { name := Text.asciiUpper (String.ofList l.name.chars)
        parameters := l.parameters.map fun p =>
          Parameter.ofValues (String.ofList p.name.chars) p.values
        value := l.value
        valueOffset := Text.byteLength (l.encode.head ++ [':']) } := by
  have hparameters : l.encode.parameters.map WrittenParameter.meaning =
      l.parameters.map fun p => Parameter.ofValues (String.ofList p.name.chars) p.values := by
    rw [encode, List.map_map]
    exact List.map_congr_left fun p _ => p.meaning_encode
  rw [WrittenLine.meaning, hparameters]
  simp [encode]

end LineParts

/-- Reading a line that was written gives back its parts: the names in upper case, and every value
as it was before its escapes. -/
theorem ContentLine.parse_encode (l : LineParts) (number : Nat) :
    parse l.encode.text number = .ok
      { name := Text.asciiUpper (String.ofList l.name.chars)
        parameters := l.parameters.map fun p =>
          Parameter.ofValues (String.ofList p.name.chars) p.values
        value := l.value
        valueOffset := Text.byteLength (l.encode.head ++ [':']) } := by
  rw [parse_text, l.meaning_encode]

/-- A caret, a line break, a quote and every character that separates, in one value. -/
example :
    (ContentLine.parse "x-a;p=\"a^^b^n^'c;d:e,f=g\",\"\":v" 1).toOption.map
      ContentLine.parameters = some [⟨"P", ["a^b\n\"c;d:e,f=g", ""]⟩] := by
  decide +kernel

end Almanac
