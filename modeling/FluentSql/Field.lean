import FluentSql.Error
import FluentSql.Identifier

/-!
# Fields

What a projection, a condition, a grouping or an ordering names: all columns, a column, an
expression, or one of these under an alias.  Caller text is classified once; rendering then quotes
what is a name and passes on what is an expression.

## Main definitions

* `Field` — fields.
* `Field.parse`, `Field.parseList` — the field, or the fields, that a text names.
* `Field.withAlias` — a field under an alias; an alias that it had is given up.
* `Field.render`, `Field.renderList` — fields as SQL.
-/

namespace FluentSql

/-- A field of a statement. -/
inductive Field where
  /-- All columns. -/
  | star
  /-- A column, qualified or not, that is quoted. -/
  | column (name : String)
  /-- An expression, which is written as it is. -/
  | expression (sql : String)
  /-- A field under an alias. -/
  | aliased (field : Field) (label : String)
  deriving DecidableEq, Repr, Inhabited

namespace Field

/-! ### Classifying text -/

/-- A field under an alias, which is taken without its quotes.  An alias that the field had is
replaced. -/
def withAlias (field : Field) (label : String) : Field :=
  match field with
  | aliased inner _ => aliased inner (unquoteAlias label)
  | inner => aliased inner (unquoteAlias label)

/-- Whether a text is an expression: it calls something or holds a star. -/
def isExpressionText (cs : List Char) : Bool :=
  cs.contains '(' || cs.contains ')' || cs.contains '*'

/-- The field that some characters name.  What stands before the last ` as ` is a field of its own,
which may have an alias too; the outermost alias wins. -/
def ofChars (cs : List Char) : Field :=
  let text := Text.trim cs
  if text = ['*'] then star
  else
    match _ : splitAlias text with
    | some (body, label) => (ofChars body).withAlias (String.ofList label)
    | none =>
      if isExpressionText text then expression (String.ofList text)
      else column (String.ofList text)
termination_by cs.length
decreasing_by
  exact Nat.lt_of_lt_of_le (length_lt_of_splitAlias ‹_›) (Text.length_trim_le cs)

/-- The field that a text names. -/
def parse (s : String) : Field := ofChars s.toList

/-- A column by its name. -/
def ofColumn (name : String) : Field := column (trimmed name)

/-- An expression under an alias, or the alias of an expression replaced. -/
def ofPair (label expr : String) : Field := (parse expr).withAlias label

/-- The items of a comma separated text.  If an alias stands anywhere in it every item keeps its
inner blanks, so that an alias of several words survives; otherwise all blanks are dropped.  A text
without comma is one item. -/
def splitItems (cs : List Char) : List (List Char) :=
  if cs.contains ',' then
    let clean := if Text.holdsWord aliasWord cs then Text.trim else Text.dropBlanks
    (Text.pieces (· == ',') cs).map clean
  else [Text.trim cs]

/-- The fields that a comma separated text names; a blank text names none. -/
def parseList (s : String) : List Field :=
  if isBlankText s then [] else (splitItems s.toList).map ofChars

/-! ### Rendering -/

/-- A field without text. -/
def blankError : Error := .emptyInput "field" "QueryBuilder::prepare_field"

/-- A field as SQL. -/
def render : Field → Except Error String
  | star => .ok "*"
  | column name => if isBlankText name then .error blankError else .ok (quoteQualified name)
  | expression sql => if isBlankText sql then .error blankError else .ok (trimmed sql)
  | aliased field label => do return (← field.render) ++ " AS " ++ quoteIdentifier label

/-- The renderings of several fields, in order. -/
def renderEach : List Field → Except Error (List String)
  | [] => .ok []
  | f :: fs => do return (← f.render) :: (← renderEach fs)

/-- A list of fields as SQL. -/
def renderList (fields : List Field) : Except Error String :=
  if fields.isEmpty then .error (.emptyInput "fields" "QueryBuilder::prepare_field_list")
  else do return ", ".intercalate (← renderEach fields)

end Field

end FluentSql
