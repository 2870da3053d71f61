import FluentSql.Json.Printer
import FluentSql.Json.Reader

/-!
# Options of a builder

The switches of a builder, and how they are stored as JSON.

## Main definitions

* `Options` — the switches.
* `Options.write`, `Options.read?` — the switches as JSON text.
-/

namespace FluentSql

/-- The switches of a builder. -/
structure Options where
  /-- Whether recorded errors are logged as warnings. -/
  logErrors : Bool
  deriving DecidableEq, Repr

namespace Options

/-- The switches of a builder that is given none. -/
protected def default : Options := ⟨false⟩

instance : Inhabited Options := ⟨Options.default⟩

/-- The switches as JSON. -/
def write (o : Options) : String := Json.writeObject [("log_errors", (Json.bool o.logErrors).write)]

/-- The switches in a text; one that is missing has its default. -/
def read? (s : String) : Option Options := do
  match ← (← Document.read? s).fields? [["log_errors"]] with
  | [some d] => return ⟨← d.bool?⟩
  | _ => return Options.default

end Options

end FluentSql
