import FluentSql.Dialect
import FluentSql.Number.Integer

/-!
# Connections

The settings with which a connection to a database is opened, and the address made of them.  An
empty user name, password or character set is the same as none; a host that is not given is the
local one.

## Main definitions

* `Driver`, `Connection` — drivers and settings.
* `Connection.sqlite`, `Connection.memory`, `Connection.mysql` — the settings of each driver.
* `Connection.url` — the address.
* `Connection.dialect` — the dialect of statements sent there.
-/

namespace FluentSql

/-- What a connection is opened with. -/
inductive Driver where
  | sqlite
  | memory
  | mysql
  deriving DecidableEq, Repr, Inhabited

namespace Driver

/-- The name of a driver. -/
def name : Driver → String
  | sqlite => "sqlite"
  | memory => "memory"
  | mysql => "mysql"

/-- All drivers. -/
def all : List Driver := [sqlite, memory, mysql]

/-- The driver with a name. -/
def ofName? (s : String) : Option Driver := all.find? fun d => d.name = s

end Driver

/-- The settings of a connection. -/
structure Connection where
  driver : Driver
  /-- The database: the path of a file, or a name on a server. -/
  dbname : String
  host : Option String
  port : Option UInt16
  username : Option String
  password : Option String
  charset : Option String
  deriving DecidableEq, Repr, Inhabited

namespace Connection

/-! ### Making settings -/

/-- Settings with a driver and a database. -/
def ofDriver (driver : Driver) (dbname : String) : Connection :=
  ⟨driver, dbname, none, none, none, none, none⟩

/-- A database file. -/
def sqlite (path : String) : Connection := ofDriver .sqlite path

/-- A database in memory. -/
def memory : Connection := ofDriver .memory ""

/-- A database on a server. -/
def mysql (host dbname username password : String) : Connection :=
  { ofDriver .mysql dbname with
    host := some host, username := some username, password := some password }

/-- The same settings with a port. -/
def withPort (c : Connection) (port : UInt16) : Connection := { c with port := some port }

/-- The same settings with a character set. -/
def withCharset (c : Connection) (charset : String) : Connection :=
  { c with charset := some charset }

/-! ### The address -/

/-- A setting that is given and not empty. -/
def given (s : Option String) : Option String := s.filter fun s => !s.isEmpty

/-- The user and the password in front of a server. -/
def credentials (c : Connection) : String :=
  match given c.username with
  | none => ""
  | some username =>
    username ++ (given c.password).elim "" (fun password => ":" ++ password) ++ "@"

/-- The address of a database on a server. -/
def serverUrl (c : Connection) (dbname : String) : String :=
  "mysql://" ++ c.credentials ++ c.host.getD "localhost"
    ++ c.port.elim "" (fun port => ":" ++ naturalText port.toNat) ++ "/" ++ dbname
    ++ (given c.charset).elim "" (fun charset => "?charset=" ++ charset)

/-- The address that a connection is opened with.  A file and a server need a database. -/
def url (c : Connection) : Except Error String :=
  match c.driver with
  | .memory => .ok "sqlite::memory:"
  | .sqlite =>
    if isBlankText c.dbname then .error (.configuration "sqlite driver needs a dbname")
    else .ok ("sqlite://" ++ trimmed c.dbname ++ "?mode=rwc")
  | .mysql =>
    if isBlankText c.dbname then .error (.configuration "mysql driver needs a dbname")
    else .ok (c.serverUrl (trimmed c.dbname))

/-- The dialect of statements that are sent there. -/
def dialect (c : Connection) : Dialect := .ofDriverName c.driver.name

end Connection

end FluentSql
