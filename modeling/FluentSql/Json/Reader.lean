import FluentSql.Json.Document
import FluentSql.Text.Blank

/-!
# Reading JSON documents

The grammar of JSON over lists of characters.  Each reader consumes what it recognises from the
front and returns the rest.  Arrays and objects nest, so the readers of documents carry a bound on
the number of steps; two steps for each character are always enough, since a step that consumes
nothing is followed by one that consumes something.

## Main definitions

* `Document.readText` — the characters of a text up to its closing quote.
* `Document.readValue` — a document and what follows it.
* `Document.read?` — the document that a whole text is.
-/

namespace FluentSql.Document

/-! ### Blanks and texts -/

/-- The blanks of the format: blank, tabulator, line feed and carriage return. -/
def isGap (c : Char) : Bool := c == ' ' || c == '\t' || c == '\n' || c == '\r'

/-- What follows the blanks. -/
def skipGaps (cs : List Char) : List Char := cs.dropWhile isGap

/-- A part of a text: a character, or a UTF-16 unit given by its number. -/
inductive Unit16 where
  /-- A character that stands for itself or has a short escape. -/
  | char (c : Char)
  /-- A unit given by four hexadecimal digits. -/
  | code (n : Nat)
  deriving DecidableEq, Repr

/-- The value of a hexadecimal digit. -/
def hexValue? (c : Char) : Option Nat :=
  if '0' ≤ c ∧ c ≤ '9' then some (c.toNat - '0'.toNat)
  else if 'a' ≤ c ∧ c ≤ 'f' then some (c.toNat - 'a'.toNat + 10)
  else if 'A' ≤ c ∧ c ≤ 'F' then some (c.toNat - 'A'.toNat + 10)
  else none

/-- The value of four hexadecimal digits. -/
def hexValue4? (a b c d : Char) : Option Nat := do
  return ((← hexValue? a) * 16 + (← hexValue? b)) * 256 + (← hexValue? c) * 16 + (← hexValue? d)

/-- The character of a short escape. -/
def shortEscape? (c : Char) : Option Char :=
  if c = '\x22' || c = '\\' || c = '/' then some c
  else if c = 'b' then some '\x08'
  else if c = 't' then some '\x09'
  else if c = 'n' then some '\x0a'
  else if c = 'f' then some '\x0c'
  else if c = 'r' then some '\x0d'
  else none

/-- The parts of a text up to its closing quote, and what follows that. -/
def readUnits : List Char → Option (List Unit16 × List Char)
  | [] => none
  | '\x22' :: cs => some ([], cs)
  | '\\' :: 'u' :: a :: b :: c :: d :: cs => do
    let n ← hexValue4? a b c d
    let (us, rest) ← readUnits cs
    return (.code n :: us, rest)
  | '\\' :: e :: cs => do
    let c ← shortEscape? e
    let (us, rest) ← readUnits cs
    return (.char c :: us, rest)
  | c :: cs =>
    if c.toNat < 0x20 || c = '\\' then none
    else do
      let (us, rest) ← readUnits cs
      return (.char c :: us, rest)

/-- The characters of some parts.  Two units that form a surrogate pair make one character; half a
pair alone makes none. -/
def characters? : List Unit16 → Option (List Char)
  | [] => some []
  | .char c :: us => (characters? us).map (c :: ·)
  | .code n :: .code m :: us =>
    if 0xD800 ≤ n && n ≤ 0xDBFF then
      if 0xDC00 ≤ m && m ≤ 0xDFFF then
        let c := Char.ofNat (0x10000 + (n - 0xD800) * 0x400 + (m - 0xDC00))
        (characters? us).map (c :: ·)
      else none
    else if 0xDC00 ≤ n && n ≤ 0xDFFF then none
    else (characters? (.code m :: us)).map (Char.ofNat n :: ·)
  | .code n :: us =>
    if 0xD800 ≤ n && n ≤ 0xDFFF then none else (characters? us).map (Char.ofNat n :: ·)

/-- A text after its opening quote, and what follows it. -/
def readText (cs : List Char) : Option (Option String × List Char) :=
  (readUnits cs).map fun (us, rest) => ((characters? us).map String.ofList, rest)

/-! ### Documents -/

mutual

/-- A document, and what follows it. -/
def readValue : Nat → List Char → Option (Document × List Char)
  | 0, _ => none
  | steps + 1, cs =>
    match skipGaps cs with
    | 'n' :: 'u' :: 'l' :: 'l' :: rest => some (.null, rest)
    | 't' :: 'r' :: 'u' :: 'e' :: rest => some (.bool true, rest)
    | 'f' :: 'a' :: 'l' :: 's' :: 'e' :: rest => some (.bool false, rest)
    | '\x22' :: rest => (readText rest).map fun (s, rest) => (.text s, rest)
    | '[' :: rest =>
      match skipGaps rest with
      | ']' :: rest => some (.array [], rest)
      | _ => (readItems steps rest).map fun (items, rest) => (.array items, rest)
    | '\x7b' :: rest =>
      match skipGaps rest with
      | '\x7d' :: rest => some (.object [], rest)
      | _ => (readMembers steps rest).map fun (members, rest) => (.object members, rest)
    | rest => (Json.Numeral.read rest).map fun (n, rest) => (.number n.value?, rest)

/-- The items of an array, at least one, and what follows its closing bracket. -/
def readItems : Nat → List Char → Option (List Document × List Char)
  | 0, _ => none
  | steps + 1, cs => do
    let (item, rest) ← readValue steps cs
    match skipGaps rest with
    | ',' :: rest =>
      let (items, rest) ← readItems steps rest
      return (item :: items, rest)
    | ']' :: rest => return ([item], rest)
    | _ => none

/-- The members of an object, at least one, and what follows its closing brace. -/
def readMembers : Nat → List Char → Option (List (Option String × Document) × List Char)
  | 0, _ => none
  | steps + 1, cs =>
    match skipGaps cs with
    | '\x22' :: rest => do
      let (key, rest) ← readText rest
      match skipGaps rest with
      | ':' :: rest =>
        let (d, rest) ← readValue steps rest
        match skipGaps rest with
        | ',' :: rest =>
          let (members, rest) ← readMembers steps rest
          return ((key, d) :: members, rest)
        | '\x7d' :: rest => return ([(key, d)], rest)
        | _ => none
      | _ => none
    | _ => none

end

/-- The document that a text is, with nothing but blanks around it. -/
def read? (s : String) : Option Document :=
  let cs := s.toList
  match readValue (2 * cs.length + 2) cs with
  | some (d, rest) => if (skipGaps rest).isEmpty then some d else none
  | none => none

end FluentSql.Document

namespace FluentSql

/-- The JSON value that a text is. -/
def Json.read? (s : String) : Option Json := do (← Document.read? s).value?

end FluentSql
