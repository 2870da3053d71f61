import FluentSql.Identifier

/-!
# Placeholders

A bound value stands in the SQL text as a question mark.  A question mark inside quoted text is no
placeholder, so the text is scanned with the quote character that is open, if any, as the state:
the same character closes it, and while it is open no other character counts.

## Main definitions

* `Placeholder.step`, `Placeholder.scan` — the quote that is open after a character, after a text.
* `Placeholder.count` — the number of placeholders of a text.
* `Placeholder.marks` — a comma separated list of placeholders.
* `Placeholder.fill` — question marks replaced by texts.
-/

namespace FluentSql.Placeholder

/-- The quote character that is open after one more character. -/
def step (quote : Option Char) (c : Char) : Option Char :=
  match quote with
  | some q => if c = q then none else some q
  | none => if isQuote c then some c else none

/-- The quote character that is open after a text. -/
def scan (quote : Option Char) (cs : List Char) : Option Char := cs.foldl step quote

/-- The number of question marks outside quotes, begun in a state of the scan. -/
def countFrom : Option Char → List Char → Nat
  | _, [] => 0
  | quote, c :: cs =>
    (if quote.isNone && c == '?' then 1 else 0) + countFrom (step quote c) cs

/-- The number of placeholders of an SQL text. -/
def count (sql : String) : Nat := countFrom none sql.toList

@[simp] theorem scan_nil (q : Option Char) : scan q [] = q := rfl

@[simp] theorem scan_cons (q : Option Char) (c : Char) (cs : List Char) :
    scan q (c :: cs) = scan (step q c) cs := rfl

@[simp] theorem scan_append (q : Option Char) (cs ds : List Char) :
    scan q (cs ++ ds) = scan (scan q cs) ds := by
  simp [scan]

@[simp] theorem countFrom_nil (q : Option Char) : countFrom q [] = 0 := rfl

/-- The scan of a text goes on where the scan of its first part stopped. -/
theorem countFrom_append (q : Option Char) (cs ds : List Char) :
    countFrom q (cs ++ ds) = countFrom q cs + countFrom (scan q cs) ds := by
  induction cs generalizing q with
  | nil => simp
  | cons c cs ih => simp [countFrom, ih, Nat.add_assoc]

/-! ### Writing placeholders -/

/-- So many placeholders, separated by commas. -/
def marks (n : Nat) : String := ",".intercalate (List.replicate n "?")

/-- Every question mark replaced by the next text, as long as there are texts left.  Question marks
inside quotes are replaced too. -/
def fill : List Char → List (List Char) → List Char
  | cs, [] => cs
  | [], _ => []
  | c :: cs, t :: ts => if c = '?' then t ++ fill cs ts else c :: fill cs (t :: ts)

end FluentSql.Placeholder
