import FluentSql.Text.Blank
import FluentSql.Text.Uppercase.Table

/-!
# Upper-case text

Operators, connectives and join keywords are recognised whatever their case, and a join keyword
that is not recognised is shown in upper case.  Both use the full upper-case map of Unicode, so
`ß` becomes `SS`, the ligature `ﬁ` becomes `FI`, and the dotless `ı` becomes a plain `I`.

## Main definitions

* `Text.upper` — the upper-case form of a character.
* `Text.uppercase` — the upper-case form of a text, character by character.
* `keyword` — a token in the form in which keywords are compared.
-/

namespace FluentSql.Text

/-- Whether a code point takes part in a run. -/
def Uppercase.Run.covers (r : Uppercase.Run) (n : Nat) : Bool :=
  r.first ≤ n && n ≤ r.last && (n - r.first) % r.stride == 0

/-- The upper-case form of a character; a character without one stands for itself. -/
def upper (c : Char) : List Char :=
  match Uppercase.runs.find? fun r => r.covers c.toNat with
  | some r => [Char.ofNat (c.toNat + r.offset).toNat]
  | none =>
    match Uppercase.expansions.lookup c.toNat with
    | some ns => ns.map Char.ofNat
    | none => [c]

/-- The text in upper case. -/
def uppercase (cs : List Char) : List Char := cs.flatMap upper

@[simp] theorem uppercase_nil : uppercase [] = [] := rfl

@[simp] theorem uppercase_cons (c : Char) (cs : List Char) :
    uppercase (c :: cs) = upper c ++ uppercase cs := by
  simp [uppercase]

@[simp] theorem uppercase_append (cs ds : List Char) :
    uppercase (cs ++ ds) = uppercase cs ++ uppercase ds := by
  simp [uppercase]

end FluentSql.Text

namespace FluentSql

/-- A token in the form in which keywords are compared: trimmed and in upper case. -/
def keyword (s : String) : String := String.ofList (Text.uppercase (Text.trim s.toList))

end FluentSql
