import Almanac.Text.Double

/-!
The values of a TOML document, and how tables grow while it is read. A table remembers how it came to
be, since that settles what may still be added to it.
-/

namespace Almanac.Toml

inductive TableKind
  /-- Named only on the way to another table. -/
  | implied
  /-- Opened by its own header. -/
  | headed
  /-- Named by a key with dots. -/
  | dotted
  /-- Written in braces. -/
  | inline
deriving DecidableEq

inductive Value
  | text (s : String)
  | integer (n : Int)
  | float (d : Double)
  | boolean (b : Bool)
  /-- A day, a time or both, as they are written out. -/
  | time (s : String)
  | list (items : List Value)
  | table (kind : TableKind) (entries : List (String × Value))
  /-- A list of tables, each opened by a header of its own. -/
  | tables (tables : List (List (String × Value)))

abbrev Entries := List (String × Value)

namespace Entries

def replace (es : Entries) (key : String) (value : Value) : Entries :=
  es.map fun e => if e.1 == key then (key, value) else e

def changeLast (change : Entries → Option Entries) :
    List Entries → Option (List Entries)
  | [] => none
  | [es] => (change es).map ([·])
  | es :: rest => (changeLast change rest).map (es :: ·)

/-- Adds a value under a key with dots. Nothing may stand there, and the tables on the way must be
new or have come about in the same manner. -/
def put (value : Value) : List String → Entries → Option Entries
  | [], _ => none
  | [key], es => if (es.lookup key).isSome then none else some (es ++ [(key, value)])
  | key :: path, es =>
    match es.lookup key with
    | none => (put value path []).map fun inner => es ++ [(key, .table .dotted inner)]
    | some (.table kind inner) =>
      if kind = .dotted ∨ kind = .implied then
        (put value path inner).map fun inner => es.replace key (.table kind inner)
      else none
    | some _ => none

/-- Goes down to the table before the last key, naming tables on the way, and changes it there. -/
def descend (change : String → Entries → Option Entries) : List String → Entries → Option Entries
  | [], _ => none
  | [key], es => change key es
  | key :: path, es =>
    match es.lookup key with
    | none => (descend change path []).map fun inner => es ++ [(key, .table .implied inner)]
    | some (.table kind inner) =>
      if kind = .inline then none
      else (descend change path inner).map fun inner => es.replace key (.table kind inner)
    | some (.tables ts) =>
      (changeLast (descend change path) ts).map fun ts => es.replace key (.tables ts)
    | some _ => none

def openTable : List String → Entries → Option Entries :=
  descend fun key es =>
    match es.lookup key with
    | none => some (es ++ [(key, .table .headed [])])
    | some (.table .implied inner) => some (es.replace key (.table .headed inner))
    | some _ => none

def openElement : List String → Entries → Option Entries :=
  descend fun key es =>
    match es.lookup key with
    | none => some (es ++ [(key, .tables [[]])])
    | some (.tables ts) => some (es.replace key (.tables (ts ++ [[]])))
    | some _ => none

def changeAt (change : Entries → Option Entries) : List String → Entries → Option Entries
  | [], es => change es
  | key :: path, es =>
    match es.lookup key with
    | some (.table kind inner) =>
      (changeAt change path inner).map fun inner => es.replace key (.table kind inner)
    | some (.tables ts) =>
      (changeLast (changeAt change path) ts).map fun ts => es.replace key (.tables ts)
    | _ => none

end Entries

end Almanac.Toml
