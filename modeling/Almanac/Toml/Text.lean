import Almanac.Text.Case

/-!
Space, comments, strings and keys of a TOML document. Each reader returns what it has read and the
characters that follow.
-/

namespace Almanac.Toml

def isSpace (c : Char) : Bool :=
  c == ' ' || c == '\t'

def isControl (c : Char) : Bool :=
  (c.toNat < 32 && c != '\t') || c.toNat == 127

def skipSpace (cs : List Char) : List Char :=
  cs.dropWhile isSpace

def skipBlank (inComment : Bool) : List Char → Option (List Char)
  | [] => some []
  | '\n' :: cs => skipBlank false cs
  | '\r' :: '\n' :: cs => skipBlank false cs
  | c :: cs =>
    if inComment then (if isControl c then none else skipBlank true cs)
    else if isSpace c then skipBlank false cs
    else if c = '#' then skipBlank true cs
    else some (c :: cs)

def skipLine (inComment : Bool) : List Char → Option (List Char)
  | [] => some []
  | '\n' :: cs => some cs
  | '\r' :: '\n' :: cs => some cs
  | c :: cs =>
    if inComment then (if isControl c then none else skipLine true cs)
    else if isSpace c then skipLine false cs
    else if c = '#' then skipLine true cs
    else none

def charOfHex? (ds : List Char) : Option Char :=
  let isHex (c : Char) : Bool := c.isDigit || ('a' ≤ c.toLower && c.toLower ≤ 'f')
  let n := Text.hexValue ds
  if ds.all isHex ∧ n.isValidChar then some (Char.ofNat n) else none

def escape? : Char → Option Char
  | 'b' => some '\x08'
  | 't' => some '\t'
  | 'n' => some '\n'
  | 'f' => some '\x0c'
  | 'r' => some '\r'
  | 'e' => some '\x1b'
  | '"' => some '"'
  | '\\' => some '\\'
  | _ => none

/-- Reads up to the closing quote of a string on one line; `before` is read already, backwards. -/
def readBasic (before : List Char) : List Char → Option (List Char × List Char)
  | [] => none
  | '"' :: cs => some (before.reverse, cs)
  | '\\' :: 'x' :: a :: b :: cs => do readBasic ((← charOfHex? [a, b]) :: before) cs
  | '\\' :: 'u' :: a :: b :: c :: d :: cs => do readBasic ((← charOfHex? [a, b, c, d]) :: before) cs
  | '\\' :: 'U' :: a :: b :: c :: d :: e :: f :: g :: h :: cs => do
    readBasic ((← charOfHex? [a, b, c, d, e, f, g, h]) :: before) cs
  | '\\' :: c :: cs => do readBasic ((← escape? c) :: before) cs
  | c :: cs => if isControl c then none else readBasic (c :: before) cs

def isLineEnd (cs : List Char) : Bool :=
  match skipSpace cs with
  | '\n' :: _ | '\r' :: '\n' :: _ => true
  | _ => false

/-- Reads up to the three closing quotes of a string on several lines. While `folding`, space and
line ends are passed over. -/
def readLongBasic (folding : Bool) (before : List Char) : List Char → Option (List Char × List Char)
  | [] => none
  | '"' :: '"' :: '"' :: '"' :: '"' :: cs => some (('"' :: '"' :: before).reverse, cs)
  | '"' :: '"' :: '"' :: '"' :: cs => some (('"' :: before).reverse, cs)
  | '"' :: '"' :: '"' :: cs => some (before.reverse, cs)
  | '\r' :: '\n' :: cs => readLongBasic folding (if folding then before else '\n' :: before) cs
  | '\n' :: cs => readLongBasic folding (if folding then before else '\n' :: before) cs
  | '\\' :: 'x' :: a :: b :: cs => do
    readLongBasic false ((← charOfHex? [a, b]) :: before) cs
  | '\\' :: 'u' :: a :: b :: c :: d :: cs => do
    readLongBasic false ((← charOfHex? [a, b, c, d]) :: before) cs
  | '\\' :: 'U' :: a :: b :: c :: d :: e :: f :: g :: h :: cs => do
    readLongBasic false ((← charOfHex? [a, b, c, d, e, f, g, h]) :: before) cs
  | '\\' :: c :: cs =>
    match escape? c with
    | some e => readLongBasic false (e :: before) cs
    | none =>
      if isLineEnd (c :: cs) then
        (if isSpace c || c == '\n' || c == '\r' then readLongBasic true before cs else none)
      else none
  | c :: cs =>
    if folding && isSpace c then readLongBasic true before cs
    else if isControl c then none
    else readLongBasic false (c :: before) cs

def readLiteral (before : List Char) : List Char → Option (List Char × List Char)
  | [] => none
  | '\'' :: cs => some (before.reverse, cs)
  | c :: cs => if isControl c then none else readLiteral (c :: before) cs

def readLongLiteral (before : List Char) : List Char → Option (List Char × List Char)
  | [] => none
  | '\'' :: '\'' :: '\'' :: '\'' :: '\'' :: cs => some (('\'' :: '\'' :: before).reverse, cs)
  | '\'' :: '\'' :: '\'' :: '\'' :: cs => some (('\'' :: before).reverse, cs)
  | '\'' :: '\'' :: '\'' :: cs => some (before.reverse, cs)
  | '\r' :: '\n' :: cs => readLongLiteral ('\n' :: before) cs
  | '\n' :: cs => readLongLiteral ('\n' :: before) cs
  | c :: cs => if isControl c then none else readLongLiteral (c :: before) cs

/-- A line end right after three opening quotes does not count. -/
def skipFirstLineEnd : List Char → List Char
  | '\n' :: cs => cs
  | '\r' :: '\n' :: cs => cs
  | cs => cs

def readString? : List Char → Option (String × List Char)
  | '"' :: '"' :: '"' :: cs =>
    (readLongBasic false [] (skipFirstLineEnd cs)).map fun r => (String.ofList r.1, r.2)
  | '\'' :: '\'' :: '\'' :: cs =>
    (readLongLiteral [] (skipFirstLineEnd cs)).map fun r => (String.ofList r.1, r.2)
  | '"' :: cs => (readBasic [] cs).map fun r => (String.ofList r.1, r.2)
  | '\'' :: cs => (readLiteral [] cs).map fun r => (String.ofList r.1, r.2)
  | _ => none

def isKeyChar (c : Char) : Bool :=
  c.isAlphanum || c == '_' || c == '-'

def readKey? (cs : List Char) : Option (String × List Char) :=
  match cs with
  | '"' :: cs => (readBasic [] cs).map fun r => (String.ofList r.1, r.2)
  | '\'' :: cs => (readLiteral [] cs).map fun r => (String.ofList r.1, r.2)
  | _ =>
    let key := cs.takeWhile isKeyChar
    if key = [] then none else some (String.ofList key, cs.drop key.length)

/-- Reads keys joined by dots, and the space after them. There are at most `limit` keys. -/
def readKeyPath? : Nat → List Char → Option (List String × List Char)
  | 0, _ => none
  | limit + 1, cs => do
    let (key, cs) ← readKey? (skipSpace cs)
    match skipSpace cs with
    | '.' :: cs =>
      let (path, cs) ← readKeyPath? limit cs
      return (key :: path, cs)
    | cs => return ([key], cs)

end Almanac.Toml
