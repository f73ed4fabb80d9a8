import Almanac.Toml.Scalar
import Almanac.Toml.Text

/-!
Whole TOML documents: lists and tables in braces, headers, and one `key = value` after another.
-/

namespace Almanac.Toml

mutual

/-- Reads a value. No more than `limit` values and list items are opened inside it. -/
def readValue? : Nat → List Char → Option (Value × List Char)
  | 0, _ => none
  | limit + 1, cs =>
    match cs with
    | '[' :: cs => do
      let (items, cs) ← readItems? limit (← skipBlank false cs)
      return (.list items, cs)
    | '\x7b' :: cs => do
      let (entries, cs) ← readEntries? limit [] (← skipBlank false cs)
      return (.table .inline entries, cs)
    | '"' :: _ | '\'' :: _ => (readString? cs).map fun r => (.text r.1, r.2)
    | _ => readScalar? cs

def readItems? : Nat → List Char → Option (List Value × List Char)
  | 0, _ => none
  | limit + 1, cs =>
    match cs with
    | ']' :: cs => some ([], cs)
    | _ => do
      let (value, cs) ← readValue? limit cs
      match ← skipBlank false cs with
      | ',' :: cs =>
        let (items, cs) ← readItems? limit (← skipBlank false cs)
        return (value :: items, cs)
      | ']' :: cs => return ([value], cs)
      | _ => none

def readEntries? : Nat → Entries → List Char → Option (Entries × List Char)
  | 0, _, _ => none
  | limit + 1, entries, cs =>
    match cs with
    | '\x7d' :: cs => some (entries, cs)
    | _ => do
      let (path, cs) ← readKeyPath? (cs.length + 1) cs
      let '=' :: cs := cs | none
      let (value, cs) ← readValue? limit (skipSpace cs)
      let entries ← entries.put value path
      match ← skipBlank false cs with
      | ',' :: cs => readEntries? limit entries (← skipBlank false cs)
      | '\x7d' :: cs => return (entries, cs)
      | _ => none

end

structure Document where
  entries : Entries := []
  path : List String := []

def readLines? : Nat → Document → List Char → Option Entries
  | 0, _, _ => none
  | limit + 1, doc, cs => do
    let size := cs.length + 1
    match ← skipBlank false cs with
    | [] => return doc.entries
    | '[' :: '[' :: cs =>
      let (path, cs) ← readKeyPath? size cs
      let ']' :: ']' :: cs := cs | none
      let entries ← doc.entries.openElement path
      readLines? limit ⟨entries, path⟩ (← skipLine false cs)
    | '[' :: cs =>
      let (path, cs) ← readKeyPath? size cs
      let ']' :: cs := cs | none
      let entries ← doc.entries.openTable path
      readLines? limit ⟨entries, path⟩ (← skipLine false cs)
    | cs =>
      let (path, cs) ← readKeyPath? size cs
      let '=' :: cs := cs | none
      let (value, cs) ← readValue? (2 * size) (skipSpace cs)
      let entries ← Entries.changeAt (Entries.put value path) doc.path doc.entries
      readLines? limit { doc with entries } (← skipLine false cs)

def read? (text : String) : Option Entries :=
  let cs := text.toList
  let cs := if cs.head? = some '\ufeff' then cs.tail else cs
  readLines? (cs.length + 1) {} cs

end Almanac.Toml
