import FluentSql.Text.Cut

/-!
# Orderings

The entries of an ORDER BY clause: a field and a direction.  An entry may be given as one text, in
which the first blank ends the field and the rest is the direction.

## Main definitions

* `Direction`, `Direction.parse` — ascending and descending order.
* `SortKey`, `SortKey.parse` — a field with its direction.
-/

namespace FluentSql

/-- A direction of sorting. -/
inductive Direction where
  | asc
  | desc
  deriving DecidableEq, Repr, Inhabited

namespace Direction

/-- The keyword of a direction. -/
def text : Direction → String
  | asc => "ASC"
  | desc => "DESC"

/-- The direction that some characters name: descending for `desc` in any case, and ascending for
everything else. -/
def ofChars (cs : List Char) : Direction :=
  if Text.fold (Text.trim cs) = "desc".toList then desc else asc

/-- The direction that a text names. -/
def parse (s : String) : Direction := ofChars s.toList

end Direction

/-- An entry of an ORDER BY clause. -/
structure SortKey where
  /-- The field, as the caller wrote it. -/
  field : String
  direction : Direction
  deriving DecidableEq, Repr, Inhabited

namespace SortKey

/-- An entry whose direction is given by its name. -/
def ofPair (field direction : String) : SortKey := ⟨field, Direction.parse direction⟩

/-- The entry that a text makes: the field up to the first blank, and the direction after it. -/
def parse (s : String) : SortKey :=
  let text := Text.trim s.toList
  ⟨String.ofList (text.takeWhile (· != ' ')), Direction.ofChars (text.dropWhile (· != ' '))⟩

end SortKey

end FluentSql
