import FluentSql.Field

/-!
# Tables

What a statement reads from or writes to: a named table, a nested SELECT, a computed expression,
one of these under an alias, or several of them.

## Main definitions

* `Table` — tables.
* `Table.parse` — the table that a text names.
* `Table.withAlias` — a table under an alias; an alias that it had is given up.
* `Table.isEmpty` — whether a name or a text is missing.
* `Table.render` — a table as SQL.
-/

namespace FluentSql

/-- A table of a statement. -/
inductive Table where
  /-- A table by its name, qualified or not, which is quoted. -/
  | named (name : String)
  /-- A nested SELECT, which is put in parentheses. -/
  | subquery (sql : String)
  /-- A computed expression, which is written as it is. -/
  | expression (sql : String)
  /-- A table under an alias. -/
  | aliased (table : Table) (label : String)
  /-- Several tables. -/
  | list (tables : List Table)
  deriving Repr, Inhabited

namespace Table

/-! ### Classifying text -/

/-- A table under an alias, which is taken without its quotes.  An alias that the table had is
replaced. -/
def withAlias (table : Table) (label : String) : Table :=
  match table with
  | aliased inner _ => aliased inner (unquoteAlias label)
  | inner => aliased inner (unquoteAlias label)

/-- Whether a text holds a SELECT. -/
def isSubqueryText (cs : List Char) : Bool := Text.holdsWord "select".toList cs

/-- Whether a text computes something: it holds an arithmetic operator, a parenthesis or two bars
side by side. -/
def isExpressionText (cs : List Char) : Bool :=
  cs.any (fun c => "+-*/%()".toList.contains c) || Text.holdsWord "||".toList cs

/-- The table that some characters without comma name. -/
def ofItem (cs : List Char) : Table :=
  let text := Text.trim cs
  if isSubqueryText text then subquery (String.ofList text)
  else if isExpressionText text then expression (String.ofList text)
  else
    match splitAlias text with
    | some (body, label) => (named (String.ofList body)).withAlias (String.ofList label)
    | none => named (String.ofList text)

/-- The table that some characters name.  Commas divide several tables, but not those inside a
nested SELECT or an expression. -/
def ofChars (cs : List Char) : Table :=
  let text := Text.trim cs
  if text.contains ',' && !isSubqueryText text && !isExpressionText text then
    list ((Field.splitItems text).map ofItem)
  else ofItem text

/-- The table that a text names. -/
def parse (s : String) : Table := ofChars s.toList

/-- A table by its name. -/
def ofName (name : String) : Table := named (trimmed name)

/-- A table under an alias. -/
def ofPair (label table : String) : Table := (parse table).withAlias label

/-- Whether a table is a computed expression. -/
def isExpression : Table → Bool
  | expression _ => true
  | _ => false

mutual

/-- Whether a name or a text is missing; a list needs a table, and none of its tables empty. -/
def isEmpty : Table → Bool
  | named s | subquery s | expression s => isBlankText s
  | aliased table _ => table.isEmpty
  | list tables => tables.isEmpty || anyEmpty tables

/-- Whether some table of a list is empty. -/
def anyEmpty : List Table → Bool
  | [] => false
  | t :: ts => t.isEmpty || anyEmpty ts

end

/-! ### Rendering -/

/-- A table without text. -/
def blankError : Error := .emptyInput "table" "QueryBuilder::prepare_table"

/-- A text in parentheses, unless it begins and ends with one already. -/
def parenthesised (cs : List Char) : List Char :=
  if cs.head? = some '(' ∧ cs.getLast? = some ')' then cs else '(' :: (cs ++ [')'])

mutual

/-- A table as SQL. -/
def render : Table → Except Error String
  | named name => if isBlankText name then .error blankError else .ok (quoteQualified name)
  | subquery sql =>
    if isBlankText sql then .error blankError
    else .ok (String.ofList (parenthesised (Text.trim sql.toList)))
  | expression sql => if isBlankText sql then .error blankError else .ok (trimmed sql)
  | aliased table label => do return (← table.render) ++ " AS " ++ quoteIdentifier label
  | list tables =>
    if tables.isEmpty then .error blankError
    else do return ", ".intercalate (← renderEach tables)

/-- The renderings of several tables, in order. -/
def renderEach : List Table → Except Error (List String)
  | [] => .ok []
  | t :: ts => do return (← t.render) :: (← renderEach ts)

end

end Table

end FluentSql
