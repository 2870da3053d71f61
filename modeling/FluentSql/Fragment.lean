import FluentSql.Text.Blank
import FluentSql.Value

/-!
# SQL text with its parameters

A piece of SQL text together with the values bound to its placeholders, in the order of the
placeholders.  Pieces are put together side by side, text to text and parameters to parameters.

## Main definitions

* `Fragment` — a text and its parameters.
* `terminated` — a statement closed by a semicolon.
-/

namespace FluentSql

/-- A piece of SQL text and the values bound to its placeholders. -/
structure Fragment where
  /-- The text, with a question mark for each value. -/
  sql : String
  /-- The values, in the order of their placeholders. -/
  params : List Value
  deriving DecidableEq, Inhabited

namespace Fragment

/-- The empty piece. -/
protected def empty : Fragment := ⟨"", []⟩

/-- A text without parameters. -/
def ofSql (sql : String) : Fragment := ⟨sql, []⟩

/-- Two pieces side by side. -/
protected def append (a b : Fragment) : Fragment := ⟨a.sql ++ b.sql, a.params ++ b.params⟩

instance : Append Fragment := ⟨Fragment.append⟩

@[simp] theorem sql_append (a b : Fragment) : (a ++ b).sql = a.sql ++ b.sql := rfl

@[simp] theorem params_append (a b : Fragment) : (a ++ b).params = a.params ++ b.params := rfl

end Fragment

/-- A statement closed by a semicolon: blanks at the end go, and one that is there already is not
repeated. -/
def terminated (sql : String) : String :=
  let cs := Text.trimEnd sql.toList
  if cs.getLast? = some ';' then String.ofList cs else String.ofList (cs ++ [';'])

end FluentSql
