/-!
# Quoted text

Text between two quote characters, in which the quote character itself is written twice.  SQL uses
the form with backticks for identifiers and with single quotes for literals.  Reading the form back
gives the text and leaves what follows, as long as that does not begin with the quote character:
the closing quote is the first one that is not doubled.

## Main definitions

* `Text.doubled`, `Text.quoted` — write the quoted form.
* `Text.readQuoted` — read it back.

## Main results

* `Text.readQuoted_quoted` — reading gives back what was written and nothing of what follows.
* `Text.readQuoted_eq_some_iff` — and only what was written so can be read.
-/

namespace FluentSql.Text

/-- The text with every quote character written twice. -/
def doubled (quote : Char) : List Char → List Char
  | [] => []
  | c :: cs => if c = quote then quote :: quote :: doubled quote cs else c :: doubled quote cs

/-- The text between quote characters, those inside it written twice. -/
def quoted (quote : Char) (cs : List Char) : List Char := quote :: (doubled quote cs ++ [quote])

/-- Read up to the first quote character that is not doubled. -/
def readBody (quote : Char) : List Char → Option (List Char × List Char)
  | [] => none
  | [c] => if c = quote then some ([], []) else none
  | c :: d :: cs =>
    if c = quote then
      if d = quote then (readBody quote cs).map fun (body, rest) => (quote :: body, rest)
      else some ([], d :: cs)
    else (readBody quote (d :: cs)).map fun (body, rest) => (c :: body, rest)

/-- Read a quoted text; what follows the closing quote is left. -/
def readQuoted (quote : Char) : List Char → Option (List Char × List Char)
  | [] => none
  | c :: cs => if c = quote then readBody quote cs else none

@[simp] theorem doubled_nil (q : Char) : doubled q [] = [] := rfl

@[simp] theorem doubled_append (q : Char) (cs ds : List Char) :
    doubled q (cs ++ ds) = doubled q cs ++ doubled q ds := by
  induction cs with
  | nil => rfl
  | cons c cs ih => by_cases h : c = q <;> simp [doubled, h, ih]

/-- A text without the quote character stays as it is. -/
theorem doubled_eq_self {q : Char} {cs : List Char} (h : q ∉ cs) : doubled q cs = cs := by
  induction cs with
  | nil => rfl
  | cons c cs ih =>
    rw [List.mem_cons, not_or] at h
    simp [doubled, Ne.symm h.1, ih h.2]

theorem readBody_doubled (q : Char) (cs rest : List Char) (h : rest.head? ≠ some q) :
    readBody q (doubled q cs ++ q :: rest) = some (cs, rest) := by
  induction cs with
  | nil =>
    cases rest with
    | nil => simp [readBody]
    | cons d ds =>
      have hd : d ≠ q := by simpa using h
      simp [readBody, hd]
  | cons c cs ih =>
    by_cases hc : c = q
    · subst hc
      simp [doubled, readBody, ih]
    · rw [doubled, if_neg hc]
      cases hr : doubled q cs ++ q :: rest with
      | nil => simp at hr
      | cons d ds =>
        rw [List.cons_append, hr, readBody, if_neg hc, ← hr, ih]
        rfl

/-- **The quoted form delimits itself.**  Whatever the text holds, reading its quoted form gives it
back and leaves exactly what follows. -/
theorem readQuoted_quoted (q : Char) (cs rest : List Char) (h : rest.head? ≠ some q) :
    readQuoted q (quoted q cs ++ rest) = some (cs, rest) := by
  simpa [quoted, readQuoted] using readBody_doubled q cs rest h

theorem eq_of_readBody {q : Char} {cs body rest : List Char}
    (h : readBody q cs = some (body, rest)) :
    cs = doubled q body ++ q :: rest ∧ rest.head? ≠ some q := by
  fun_induction readBody q cs generalizing body rest with
  | case1 => cases h
  | case2 =>
    cases h
    exact ⟨rfl, by simp⟩
  | case3 => cases h
  | case4 cs ih =>
    obtain ⟨⟨body', rest'⟩, hread, heq⟩ := Option.map_eq_some_iff.mp h
    cases heq
    obtain ⟨hcs, hrest⟩ := ih hread
    refine ⟨?_, hrest⟩
    rw [doubled, if_pos rfl, hcs]
    rfl
  | case5 d cs hd =>
    cases h
    exact ⟨rfl, by simpa using hd⟩
  | case6 c d cs hc ih =>
    obtain ⟨⟨body', rest'⟩, hread, heq⟩ := Option.map_eq_some_iff.mp h
    cases heq
    obtain ⟨hcs, hrest⟩ := ih hread
    refine ⟨?_, hrest⟩
    rw [doubled, if_neg hc, hcs]
    rfl

/-- **Only the quoted form can be read**, where its last quote character is not doubled by what
follows. -/
theorem readQuoted_eq_some_iff {q : Char} {cs body rest : List Char} :
    readQuoted q cs = some (body, rest) ↔ cs = quoted q body ++ rest ∧ rest.head? ≠ some q := by
  constructor
  · intro h
    cases cs with
    | nil => cases h
    | cons c cs =>
      rw [readQuoted] at h
      split at h
      · rename_i hc
        obtain ⟨hcs, hrest⟩ := eq_of_readBody h
        refine ⟨?_, hrest⟩
        rw [hc, hcs, quoted]
        simp
      · cases h
  · rintro ⟨rfl, h⟩
    exact readQuoted_quoted q body rest h

end FluentSql.Text
