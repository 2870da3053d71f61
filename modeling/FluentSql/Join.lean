import FluentSql.Text.Cut
import FluentSql.Text.Uppercase

/-!
# Joins

The types of joins, how a caller asks for one, and what the joined rows have to match.

## Main definitions

* `JoinType`, `JoinType.text`, `JoinType.parse?` — the types and their keywords.
* `JoinRequest` — the type a caller asks for, known or not.
* `JoinOn` — the ON part of a join.
-/

namespace FluentSql

/-- A type of join.  LEFT and LEFT OUTER mean the same but keep their spelling. -/
inductive JoinType where
  | inner
  | left
  | leftOuter
  | rightOuter
  | fullOuter
  | cross
  deriving DecidableEq, Repr, Inhabited

namespace JoinType

/-- The keywords of a type. -/
def text : JoinType → String
  | inner => "INNER"
  | left => "LEFT"
  | leftOuter => "LEFT OUTER"
  | rightOuter => "RIGHT OUTER"
  | fullOuter => "FULL OUTER"
  | cross => "CROSS"

/-- The type that keywords in upper case name.  Without OUTER, RIGHT and FULL mean the same. -/
def ofKeywords? : String → Option JoinType
  | "INNER" => some inner
  | "LEFT" => some left
  | "LEFT OUTER" => some leftOuter
  | "RIGHT" | "RIGHT OUTER" => some rightOuter
  | "FULL" | "FULL OUTER" => some fullOuter
  | "CROSS" => some cross
  | _ => none

/-- The type that a text names, in any case and with any blanks between the keywords. -/
def parse? (s : String) : Option JoinType :=
  ofKeywords? (String.ofList (Text.uppercase ([' '].intercalate (Text.words s.toList))))

end JoinType

/-- The type of join that a caller asks for. -/
inductive JoinRequest where
  /-- A type. -/
  | known (type : JoinType)
  /-- Keywords that name no type, in upper case. -/
  | unknown (token : String)
  deriving DecidableEq, Repr, Inhabited

/-- The request that a text makes. -/
def JoinRequest.ofText (s : String) : JoinRequest :=
  match JoinType.parse? s with
  | some type => known type
  | none => unknown (keyword s)

/-- The ON part of a join. -/
inductive JoinOn where
  /-- No ON part. -/
  | nothing
  /-- Two columns that are equal. -/
  | columns (left right : String)
  /-- Text of the caller. -/
  | raw (sql : String)
  deriving DecidableEq, Repr, Inhabited

/-- The ON part that a text makes; a blank text makes none. -/
def JoinOn.ofText (s : String) : JoinOn := if isBlankText s then nothing else raw s

end FluentSql
