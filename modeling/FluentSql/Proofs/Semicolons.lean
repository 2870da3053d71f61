import Mathlib.Data.List.DropRight
import FluentSql.Verb

/-!
# The semicolon at the end

A statement is sent with a semicolon at its end.  One is added unless the text has one there
already, blanks aside, and then the text may have more of them: those stay.  Nothing else of the
text is touched.

## Main definitions

* `Text.body`, `Text.closing` — a text up to its last character that is neither a blank nor a
  semicolon, and what comes after.
* `semicolons` — how many semicolons stand at the end of a text.
* `ClosedOnce` — a text that ends in a semicolon and has no other one in front of it.

## Main results

* `terminated_terminated`, `body_terminated` — closing a text twice is closing it once, and only
  blanks and semicolons at the end change.
* `semicolons_terminated` — one semicolon is added if there is none.
* `closedOnce_terminated_iff` — a closed text has exactly one semicolon at its end if there were
  not several before.
* `Builder.sent_text_closes` — **what this means for the statements that are sent.**
-/

namespace FluentSql

namespace Text

variable {c : Char} {cs : List Char}

/-- The characters that a text may end with behind its statement. -/
def isClosing (c : Char) : Bool := isBlank c || c == ';'

/-- The text without the blanks and semicolons at its end. -/
def body (cs : List Char) : List Char := cs.rdropWhile isClosing

/-- The blanks and semicolons at the end of a text. -/
def closing (cs : List Char) : List Char := cs.rtakeWhile isClosing

theorem isClosing_of_isBlank (h : isBlank c = true) : isClosing c = true := by
  rw [isClosing, h, Bool.true_or]

theorem body_concat_of_isClosing (h : isClosing c = true) (cs : List Char) :
    body (cs ++ [c]) = body cs :=
  List.rdropWhile_concat_pos _ _ c h

theorem closing_concat_of_isClosing (h : isClosing c = true) (cs : List Char) :
    closing (cs ++ [c]) = closing cs ++ [c] :=
  List.rtakeWhile_concat_pos _ _ c h

theorem closing_concat_of_not_isClosing (h : ¬isClosing c = true) (cs : List Char) :
    closing (cs ++ [c]) = [] :=
  List.rtakeWhile_concat_neg _ _ c h

theorem trimEnd_concat_of_isBlank (h : isBlank c = true) (cs : List Char) :
    trimEnd (cs ++ [c]) = trimEnd cs :=
  List.rdropWhile_concat_pos isBlank cs c h

theorem trimEnd_concat_of_not_isBlank (h : ¬isBlank c = true) (cs : List Char) :
    trimEnd (cs ++ [c]) = cs ++ [c] :=
  List.rdropWhile_concat_neg isBlank cs c h

/-! ### Blanks at the end -/

/-- Blanks at the end are behind the body. -/
theorem body_trimEnd (cs : List Char) : body (trimEnd cs) = body cs := by
  induction cs using List.reverseRecOn with
  | nil => rfl
  | append_singleton cs c ih =>
    by_cases hc : isBlank c = true
    · rw [trimEnd_concat_of_isBlank hc, ih, body_concat_of_isClosing (isClosing_of_isBlank hc)]
    · rw [trimEnd_concat_of_not_isBlank hc]

/-- A blank is no semicolon. -/
theorem count_closing_concat_of_isBlank (h : isBlank c = true) (cs : List Char) :
    (closing (cs ++ [c])).count ';' = (closing cs).count ';' := by
  have hne : c ≠ ';' := by
    rintro rfl
    revert h
    decide
  rw [closing_concat_of_isClosing (isClosing_of_isBlank h), List.count_append,
    List.count_singleton, beq_false_of_ne hne]
  rfl

theorem count_closing_trimEnd (cs : List Char) :
    (closing (trimEnd cs)).count ';' = (closing cs).count ';' := by
  induction cs using List.reverseRecOn with
  | nil => rfl
  | append_singleton cs c ih =>
    by_cases hc : isBlank c = true
    · rw [trimEnd_concat_of_isBlank hc, ih, count_closing_concat_of_isBlank hc]
    · rw [trimEnd_concat_of_not_isBlank hc]

theorem count_closing_concat_semicolon (cs : List Char) :
    (closing (cs ++ [';'])).count ';' = (closing cs).count ';' + 1 := by
  rw [closing_concat_of_isClosing rfl, List.count_append]
  rfl

/-- A text ends in a semicolon, blanks aside, exactly if there is one behind its body. -/
theorem getLast?_trimEnd_eq_semicolon_iff :
    (trimEnd cs).getLast? = some ';' ↔ 0 < (closing cs).count ';' := by
  induction cs using List.reverseRecOn with
  | nil => simp [closing]
  | append_singleton cs c ih =>
    by_cases hc : isBlank c = true
    · rw [trimEnd_concat_of_isBlank hc, ih, count_closing_concat_of_isBlank hc]
    · rw [trimEnd_concat_of_not_isBlank hc, List.getLast?_concat, Option.some.injEq]
      by_cases hsemicolon : c = ';'
      · subst hsemicolon
        rw [count_closing_concat_semicolon]
        exact iff_of_true rfl (Nat.succ_pos _)
      · have hclosing : ¬isClosing c = true := by
          rw [isClosing, Bool.or_eq_true, beq_iff_eq, not_or]
          exact ⟨hc, hsemicolon⟩
        rw [closing_concat_of_not_isClosing hclosing]
        exact iff_of_false hsemicolon (Nat.lt_irrefl 0)

end Text

/-- How many semicolons stand at the end of a text, blanks between them not counted. -/
def semicolons (s : String) : Nat := (Text.closing s.toList).count ';'

/-- A text that ends in a semicolon, with none in front of it but for blanks. -/
def ClosedOnce (s : String) : Prop :=
  ∃ front, s = front ++ ";" ∧ (Text.trimEnd front.toList).getLast? ≠ some ';'

/-! ### Closed texts -/

/-- A text that has a semicolon only loses blanks. -/
theorem toList_terminated_of_pos {s : String} (h : 0 < semicolons s) :
    (terminated s).toList = Text.trimEnd s.toList := by
  have hlast : (Text.trimEnd s.toList).getLast? = some ';' :=
    Text.getLast?_trimEnd_eq_semicolon_iff.mpr h
  rw [terminated, if_pos hlast, String.toList_ofList]

/-- A text that has none gets one. -/
theorem toList_terminated_of_eq_zero {s : String} (h : semicolons s = 0) :
    (terminated s).toList = Text.trimEnd s.toList ++ [';'] := by
  have hlast : ¬(Text.trimEnd s.toList).getLast? = some ';' := by
    rw [Text.getLast?_trimEnd_eq_semicolon_iff]
    exact Nat.not_lt.mpr (Nat.le_of_eq h)
  rw [terminated, if_neg hlast, String.toList_ofList]

/-- Only what is behind the body changes. -/
theorem body_terminated (s : String) : Text.body (terminated s).toList = Text.body s.toList := by
  rcases Nat.eq_zero_or_pos (semicolons s) with h | h
  · rw [toList_terminated_of_eq_zero h, Text.body_concat_of_isClosing rfl, Text.body_trimEnd]
  · rw [toList_terminated_of_pos h, Text.body_trimEnd]

/-- A semicolon is added if there is none, and none is taken away. -/
theorem semicolons_terminated (s : String) : semicolons (terminated s) = max 1 (semicolons s) := by
  rcases Nat.eq_zero_or_pos (semicolons s) with h | h
  · rw [semicolons, toList_terminated_of_eq_zero h, Text.count_closing_concat_semicolon,
      Text.count_closing_trimEnd, ← semicolons, h]
    rfl
  · rw [semicolons, toList_terminated_of_pos h, Text.count_closing_trimEnd, ← semicolons]
    omega

/-- A closed text ends in a semicolon. -/
theorem exists_terminated_eq (s : String) : ∃ front, terminated s = front ++ ";" := by
  obtain ⟨cs, hcs⟩ : ∃ cs, (terminated s).toList = cs ++ [';'] := by
    rcases Nat.eq_zero_or_pos (semicolons s) with h | h
    · exact ⟨_, toList_terminated_of_eq_zero h⟩
    · obtain ⟨cs, hcs⟩ :=
        List.getLast?_eq_some_iff.mp (Text.getLast?_trimEnd_eq_semicolon_iff.mpr h)
      exact ⟨cs, (toList_terminated_of_pos h).trans hcs⟩
  refine ⟨String.ofList cs, ?_⟩
  rw [← String.toList_inj, hcs, String.toList_append, String.toList_ofList]
  rfl

/-- Closing a closed text changes nothing. -/
theorem terminated_terminated (s : String) : terminated (terminated s) = terminated s := by
  have hpos : 0 < semicolons (terminated s) := by
    rw [semicolons_terminated]
    omega
  obtain ⟨front, hfront⟩ := exists_terminated_eq s
  rw [← String.toList_inj, toList_terminated_of_pos hpos, hfront, String.toList_append]
  exact Text.trimEnd_concat_of_not_isBlank (by decide) _

/-- A text ends in one semicolon exactly if it ends in a semicolon and has one behind its body. -/
theorem closedOnce_append_iff (front : String) :
    ClosedOnce (front ++ ";") ↔ semicolons (front ++ ";") = 1 := by
  have hcount : semicolons (front ++ ";") = semicolons front + 1 := by
    rw [semicolons, String.toList_append]
    exact Text.count_closing_concat_semicolon _
  have hlast : (Text.trimEnd front.toList).getLast? = some ';' ↔ 0 < semicolons front :=
    Text.getLast?_trimEnd_eq_semicolon_iff
  rw [hcount]
  constructor
  · rintro ⟨front', heq, hfront⟩
    obtain rfl : front = front' := (String.append_left_inj _).mp heq
    rw [ne_eq, hlast] at hfront
    omega
  · intro hone
    refine ⟨front, rfl, ?_⟩
    rw [ne_eq, hlast]
    omega

/-- **A closed text ends in exactly one semicolon** unless there were several before. -/
theorem closedOnce_terminated_iff (s : String) : ClosedOnce (terminated s) ↔ semicolons s ≤ 1 := by
  have hcount := semicolons_terminated s
  obtain ⟨front, hfront⟩ := exists_terminated_eq s
  rw [hfront] at hcount ⊢
  rw [closedOnce_append_iff, hcount]
  omega

namespace Builder

/-- **Statements are sent with a semicolon at the end**, and with exactly one unless the text that
the builder shows has several there: then all of them are sent.  Closing a text, sent or not,
changes nothing up to its last character that is neither a blank nor a semicolon, and closing it
once more changes nothing at all. -/
theorem sent_text_closes {b : Builder} {q : Fragment} (h : b.compile = .ok q) :
    ((∃ front, q.sql = front ++ ";") ∧
      (ClosedOnce q.sql ↔ semicolons b.text ≤ 1) ∧
      semicolons q.sql = max 1 (semicolons b.text) ∧
      Text.body q.sql.toList = Text.body b.text.toList) ∧
    ∀ s, Text.body (terminated s).toList = Text.body s.toList ∧
      terminated (terminated s) = terminated s := by
  refine ⟨?_, fun s => ⟨body_terminated s, terminated_terminated s⟩⟩
  obtain ⟨-, -, -, rfl⟩ := compile_eq_ok_iff.mp h
  exact ⟨exists_terminated_eq _, closedOnce_terminated_iff _, semicolons_terminated _,
    body_terminated _⟩

/-- A query of the caller with a blank on both sides of its semicolon. -/
def spacedQuery : Builder := (new .sqlite .default).run (.start (.raw "SELECT 1 ; " []))

/-- It is sent without the second blank. -/
theorem sent_text_closes_spacedQuery :
    spacedQuery.compile = .ok ⟨"SELECT 1 ;", []⟩ ∧ semicolons spacedQuery.text = 1 ∧
      ClosedOnce "SELECT 1 ;" := by
  have hcompile : spacedQuery.compile = .ok ⟨"SELECT 1 ;", []⟩ := by rfl
  have hcount : semicolons spacedQuery.text = 1 := by rfl
  obtain ⟨⟨-, honce, -⟩, -⟩ := sent_text_closes hcompile
  exact ⟨hcompile, hcount, honce.mpr (Nat.le_of_eq hcount)⟩

/-- A query of the caller with two semicolons is sent with both. -/
theorem secondSemicolon_is_sent :
    ((new .sqlite .default).run (.start (.raw "SELECT 1;;" []))).compile =
        .ok ⟨"SELECT 1;;", []⟩ ∧
      ¬ClosedOnce "SELECT 1;;" := by
  refine ⟨by rfl, ?_⟩
  have htext : "SELECT 1;;" = "SELECT 1;" ++ ";" := by rfl
  rw [htext, closedOnce_append_iff]
  decide

end Builder

end FluentSql
