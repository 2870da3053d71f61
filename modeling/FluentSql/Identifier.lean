import FluentSql.Text.Cut
import FluentSql.Text.Quoted

/-!
# Identifiers

Names of columns, tables, views and aliases are written between backticks, trimmed, with the
backticks inside them doubled.  A qualified name has its parts quoted one by one: `t.id` becomes
`` `t`.`id` ``.

## Main definitions

* `quoteIdentifier` — one name between backticks.
* `nameParts`, `quoteQualified` — the parts of a qualified name, and its quoted form.
* `unquoteAlias` — an alias without the quotes its writer put around it.
* `splitAlias` — the body and the alias of `body AS alias`.
-/

namespace FluentSql

/-- The character that encloses identifiers. -/
def backtick : Char := '\x60'

/-- The character that encloses literals. -/
def singleQuote : Char := '\x27'

/-- The other character that opens quoted text. -/
def doubleQuote : Char := '\x22'

/-- A name as an SQL identifier. -/
def quoteIdentifier (name : String) : String :=
  String.ofList (Text.quoted backtick (Text.trim name.toList))

/-- The parts of a qualified name, which points divide. -/
def nameParts (name : String) : List String :=
  (Text.pieces (· == '.') name.toList).map String.ofList

/-- A qualified name as an SQL identifier, every part between backticks of its own. -/
def quoteQualified (name : String) : String :=
  ".".intercalate ((nameParts name).map quoteIdentifier)

@[simp] theorem toList_quoteIdentifier (name : String) :
    (quoteIdentifier name).toList = Text.quoted backtick (Text.trim name.toList) := by
  simp [quoteIdentifier]

/-! ### Aliases -/

/-- Whether a character is one of the three quote characters. -/
def isQuote (c : Char) : Bool := c == backtick || c == singleQuote || c == doubleQuote

/-- An alias without blanks around it and without the quote characters at its ends. -/
def unquoteAlias (label : String) : String :=
  let cs := (Text.trim label.toList).dropWhile isQuote
  String.ofList (cs.reverse.dropWhile isQuote).reverse

/-- The word between a body and its alias. -/
def aliasWord : List Char := " as ".toList

/-- The body and the alias on both sides of the last ` as `, in any case of letters.  There is no
alias when either side is blank. -/
def splitAlias (item : List Char) : Option (List Char × List Char) :=
  match Text.cutLast aliasWord item with
  | none => none
  | some (before, after) =>
    if Text.allBlank before || Text.allBlank after then none
    else some (Text.trim before, Text.trim after)

/-- What stands before an alias is shorter than the whole. -/
theorem length_lt_of_splitAlias {item body label : List Char}
    (h : splitAlias item = some (body, label)) : body.length < item.length := by
  rw [splitAlias] at h
  split at h
  · simp at h
  · rename_i before after hcut
    have hlen := Text.length_of_cutLast hcut
    have hword : aliasWord.length = 4 := by decide
    have htrim := Text.length_trim_le before
    split at h
    · simp at h
    · simp only [Option.some.injEq, Prod.mk.injEq] at h
      obtain ⟨rfl, rfl⟩ := h
      omega

end FluentSql
