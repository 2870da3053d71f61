import FluentSql.Builder

/-!
# Inspection

The state of a builder as one line for whoever debugs a program: the dialect, the text with
placeholders, the parameters with their kinds, and the error with its cause.

## Main definitions

* `Inspect.quote` — a text with its control characters made visible.
* `Inspect.value`, `Inspect.error` — parameters and errors.
* `Builder.inspect` — a builder.
-/

namespace FluentSql

namespace Inspect

/-! ### Texts and records -/

/-- The digits of a number to the base sixteen, in lower case. -/
def hex (n : Nat) : List Char := Nat.toDigits 16 n

/-- A character inside a quoted text. -/
def escape (c : Char) : List Char :=
  if c = '\x22' || c = '\\' then ['\\', c]
  else if c = '\t' then ['\\', 't']
  else if c = '\n' then ['\\', 'n']
  else if c = '\r' then ['\\', 'r']
  else if c = '\x00' then ['\\', '0']
  else if c.toNat < 0x20 || c.toNat = 0x7f then '\\' :: 'u' :: '\x7b' :: (hex c.toNat ++ ['\x7d'])
  else [c]

/-- A text between quotes. -/
def quote (s : String) : String := "\"" ++ String.ofList (s.toList.flatMap escape) ++ "\""

/-- A name with one content. -/
def tuple (name content : String) : String := name ++ "(" ++ content ++ ")"

/-- A list of contents. -/
def list (items : List String) : String := "[" ++ ", ".intercalate items ++ "]"

/-- A name with named contents. -/
def record (name : String) (fields : List (String × String)) : String :=
  name ++ " \x7b " ++ ", ".intercalate (fields.map fun f => f.1 ++ ": " ++ f.2) ++ " \x7d"

/-- A truth value. -/
def truth (b : Bool) : String := if b then "true" else "false"

/-! ### Parameters -/

/-- Numbers have all their places from `10 ^ -4` up to below `10 ^ 16`, and a whole number has
`.0`. -/
def layout : Layout where
  positional lead := -4 ≤ lead && lead ≤ 15
  wholeMark := true
  exponentPlus := false
  tie := .up

mutual

/-- A JSON value with the kinds of its parts. -/
def json : Json → String
  | .null => "Null"
  | .bool b => tuple "Bool" (truth b)
  | .number n => tuple "Number" (Json.number n).write
  | .text s => tuple "String" (quote s)
  | .array items => "Array " ++ list (jsonItems items)
  | .object members => "Object \x7b" ++ ", ".intercalate (jsonMembers members) ++ "\x7d"

/-- The items of an array. -/
def jsonItems : List Json → List String
  | [] => []
  | x :: xs => json x :: jsonItems xs

/-- The members of an object. -/
def jsonMembers : List (String × Json) → List String
  | [] => []
  | (key, x) :: ms => (quote key ++ ": " ++ json x) :: jsonMembers ms

end

/-- A parameter with its kind. -/
def value : Value → String
  | .null => "Null"
  | .bool b => tuple "Bool" (truth b)
  | .int32 n => tuple "I32" (integerText n.toInt)
  | .int64 n => tuple "I64" (integerText n.toInt)
  | .single x => tuple "F32" (layout.write x)
  | .double x => tuple "F64" (layout.write x)
  | .text s => tuple "String" (quote s)
  | .bytes bs => tuple "Bytes" (list (bs.map fun b => naturalText b.toNat))
  | .json document => tuple "Json" (json document)

/-! ### Errors -/

/-- The kind of an error, and what its message is made of. -/
def error : Error → String
  | .emptyInput argument context =>
    record "EmptyInput" [("argument", quote argument), ("context", quote context)]
  | .invalidType argument context expected =>
    record "InvalidType"
      [("argument", quote argument), ("context", quote context), ("expected", quote expected)]
  | .illegalJoin joinType dialect =>
    record "IllegalJoinType" [("join_type", quote joinType), ("dialect", quote dialect)]
  | .missingSelect context => record "MissingSelect" [("context", quote context)]
  | .duplicateSetOperator operator => record "DuplicateSetOp" [("operator", quote operator)]
  | .unknownOperator token => record "UnknownOperator" [("token", quote token)]
  | .execution message => record "Execution" [("message", quote message)]
  | .configuration message => record "Config" [("message", quote message)]
  | .custom message => record "Custom" [("message", quote message)]

/-- The kind of a dialect. -/
def dialect : Dialect → String
  | .sqlite => "Sqlite"
  | .mysql => "MySql"
  | .generic => "Generic"

end Inspect

/-- The state of a builder in one line. -/
def Builder.inspect (b : Builder) : String :=
  Inspect.record "QueryBuilder"
    [("dialect", Inspect.dialect b.dialect), ("sql", Inspect.quote b.text),
      ("params", Inspect.list (b.params.map Inspect.value)),
      ("error", b.error.elim "None" fun e => Inspect.tuple "Some" (Inspect.error e))]

end FluentSql
