import FluentSql.Error
import FluentSql.Join

/-!
# Dialects

The families of databases that statements are written for.  A dialect decides which joins there
are and whether a DELETE may have a limit; everything else is the same for all.

## Main definitions

* `Dialect`, `Dialect.ofDriverName` — the dialects, and which one a driver speaks.
* `Dialect.joinTypes`, `Dialect.checkJoin`, `Dialect.resolveJoin` — the joins of a dialect.
* `Dialect.allowsDeleteLimit` — whether a DELETE may have a limit.
-/

namespace FluentSql

/-- A family of databases: SQLite, MySQL with MariaDB, or any other. -/
inductive Dialect where
  | sqlite
  | mysql
  | generic
  deriving DecidableEq, Repr, Inhabited

namespace Dialect

/-- The dialect that a driver speaks, by the driver's name in any case. -/
def ofDriverName (name : String) : Dialect :=
  match String.ofList (Text.fold (Text.trim name.toList)) with
  | "sqlite" | "sqlite3" | "memory" => sqlite
  | "mysql" | "mariadb" => mysql
  | _ => generic

/-- The name shown in messages. -/
def name : Dialect → String
  | sqlite => "SQLite"
  | mysql => "MySQL"
  | generic => "this dialect"

/-- The joins of a dialect. -/
def joinTypes : Dialect → List JoinType
  | sqlite => [.inner, .left, .leftOuter, .cross]
  | mysql | generic => [.inner, .left, .leftOuter, .rightOuter, .fullOuter, .cross]

/-- Whether a dialect has a join. -/
def allowsJoin (d : Dialect) (type : JoinType) : Bool := d.joinTypes.contains type

/-- The error of a join that a dialect does not have. -/
def illegalJoin (d : Dialect) (token : String) : Error := .illegalJoin token d.name

/-- An error unless a dialect has a join. -/
def checkJoin (d : Dialect) (type : JoinType) : Except Error Unit :=
  if d.allowsJoin type then .ok () else .error (d.illegalJoin type.text)

/-- The type of join that a request gets. -/
def resolveJoin (d : Dialect) : JoinRequest → Except Error JoinType
  | .known type => do
    d.checkJoin type
    return type
  | .unknown token =>
    if token.isEmpty then .error (.emptyInput "join_type" "QueryBuilder::join")
    else .error (d.illegalJoin token)

/-- Whether a DELETE may have a limit.  SQLite refuses one unless it was built to accept it. -/
def allowsDeleteLimit : Dialect → Bool
  | sqlite => false
  | mysql | generic => true

end Dialect

end FluentSql
