import FluentSql.Condition

/-!
# Filters

The content of a WHERE or HAVING clause: conditions with connectives between them, in the order in
which they were added.  Nothing stands between two conditions unless a connective was added.  A
condition that could not be made leaves its error in the filter; the first one is kept.

## Main definitions

* `Filter`, `Filter.Node` — filters and what they consist of.
* `Filter.Link`, `Filter.add` — the ways to extend a filter.
* `Filter.compile` — the SQL of a filter.
-/

namespace FluentSql

/-- A part of a filter. -/
inductive Filter.Node where
  | condition (c : Condition)
  | connective (c : Connective)
  deriving DecidableEq, Inhabited

/-- Conditions with connectives between them. -/
structure Filter where
  /-- The parts, in order. -/
  nodes : List Filter.Node
  /-- The first error met while adding parts. -/
  error : Option Error
  deriving DecidableEq, Inhabited

namespace Filter

/-- The filter without parts. -/
protected def empty : Filter := ⟨[], none⟩

/-- Whether nothing, not even an error, was added. -/
def isEmpty (f : Filter) : Bool := f.nodes.isEmpty && f.error.isNone

/-! ### Adding parts -/

/-- A filter with one more part. -/
def addNode (f : Filter) (n : Node) : Filter := { f with nodes := f.nodes ++ [n] }

/-- A filter with an error, unless it has one already. -/
def record (f : Filter) (e : Error) : Filter := { f with error := f.error.or (some e) }

/-- Add a condition, or the error that making it gave. -/
def push (f : Filter) (c : Except Error Condition) : Filter :=
  match c with
  | .ok c => f.addNode (.condition c)
  | .error e => f.record e

/-- Add a connective given by its token. -/
def pushToken (f : Filter) (token : String) : Filter :=
  match Connective.parse token with
  | .ok c => f.addNode (.connective c)
  | .error e => f.record e

/-- Add a connective and a condition.  The connective stays if the condition could not be made. -/
def join (f : Filter) (word : Connective) (c : Except Error Condition) : Filter :=
  (f.addNode (.connective word)).push c

/-- One way to extend a filter. -/
inductive Link where
  /-- A condition with nothing before it. -/
  | push (c : Except Error Condition)
  /-- A condition after a connective. -/
  | join (word : Connective) (c : Except Error Condition)
  /-- A connective given by its token. -/
  | token (token : String)

/-- A filter extended by a link. -/
def add (f : Filter) : Link → Filter
  | .push c => f.push c
  | .join word c => f.join word c
  | .token token => f.pushToken token

/-- The filter of a chain of links. -/
def ofLinks (links : List Link) : Filter := links.foldl add .empty

/-- The filter of one condition, or of the error that making it gave. -/
def ofCondition (c : Except Error Condition) : Filter := Filter.empty.push c

/-- The filter that all of several conditions pass. -/
def ofConditions : List Condition → Filter
  | [] => .empty
  | c :: cs => cs.foldl (fun f c => f.join .and (.ok c)) (ofCondition (.ok c))

/-- The filter of a text of the caller, blank or not. -/
def raw (sql : String) : Filter := ofCondition (.ok (.raw sql))

/-- The filter of a text of the caller; a blank text is the filter without parts. -/
def ofText (sql : String) : Filter := if isBlankText sql then .empty else raw sql

/-! ### Compiling -/

/-- The SQL of a part. -/
def Node.compile : Node → Except Error Fragment
  | condition c => c.compile
  | connective c => .ok (.ofSql (" " ++ c.text ++ " "))

/-- The SQL of several parts, side by side. -/
def compileNodes : List Node → Except Error Fragment
  | [] => .ok .empty
  | n :: ns => do return (← n.compile) ++ (← compileNodes ns)

/-- The SQL of a filter.  An error met while adding parts comes first. -/
def compile (f : Filter) : Except Error Fragment :=
  match f.error with
  | some e => .error e
  | none =>
    if f.nodes.isEmpty then .error (.emptyInput "where" Condition.context)
    else compileNodes f.nodes

end Filter

end FluentSql
