/-!
# Errors

Why a statement could not be built or run.  Each cause has a constructor of its own with what its
message needs; `Error.message` is the only place that words them.

An error names the argument at fault and the verb that found it.
-/

namespace FluentSql

/-- Why a statement could not be built or run. -/
inductive Error where
  /-- A required argument is missing or blank. -/
  | emptyInput (argument context : String)
  /-- An argument has the wrong shape. -/
  | invalidType (argument context expected : String)
  /-- The dialect has no join of this type. -/
  | illegalJoin (joinType dialect : String)
  /-- A clause or a set operation has no SELECT to extend. -/
  | missingSelect (context : String)
  /-- A set operator that a statement may hold once is asked for again. -/
  | duplicateSetOperator (operator : String)
  /-- A token is no operator. -/
  | unknownOperator (token : String)
  /-- The statement was sent and failed there. -/
  | execution (message : String)
  /-- Connection settings cannot be used. -/
  | configuration (message : String)
  /-- The caller recorded a message of its own. -/
  | custom (message : String)
  deriving DecidableEq, Repr, Inhabited

namespace Error

/-- The text shown for an error. -/
def message : Error → String
  | emptyInput argument context => "Empty " ++ argument ++ " in " ++ context
  | invalidType argument context expected =>
    "Incorrect type of " ++ argument ++ " in " ++ context ++ ". " ++ argument ++ " must be "
      ++ expected
  | illegalJoin joinType dialect => joinType ++ " JOIN is not allowed in " ++ dialect
  | missingSelect context => "No SELECT found in " ++ context
  | duplicateSetOperator operator => "SQL has already " ++ operator
  | unknownOperator token => "Unknown operator '" ++ token ++ "'"
  | execution message => "Error executing query: " ++ message
  | configuration message => "Configuration error: " ++ message
  | custom message => message

/-- Whether the statement was sent and failed there, so that it may be sent again. -/
def isExecution : Error → Bool
  | execution _ => true
  | _ => false

end Error

end FluentSql
