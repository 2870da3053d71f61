import FluentSql.Proofs.Literals
import FluentSql.Verb

/-!
# The debug view of a statement

The debug view shows a statement with the literals of its values in place of the placeholders.  The
view is made by a scan of its own, which takes every question mark for a placeholder, also one
inside quotes.  So it is what it should be as long as the question marks inside quotes stand behind
all placeholders; if one stands before a placeholder then it takes the literal of that placeholder,
and the last placeholder gets none.

## Main definitions

* `Placeholder.substitute` — the placeholders of a text replaced by texts, and nothing else.
* `Placeholder.MarksLast` — no placeholder stands behind a question mark inside quotes.
* `Builder.substituted` — the statement with literals in place of its placeholders.

## Main results

* `Placeholder.fill_eq_substitute_iff` — when question marks and placeholders come to the same.
* `Builder.literalText_eq_substituted_iff` — **when the debug view is the statement with literals in
  place of its placeholders.**
* `Builder.quotedMark_is_filled` — a question mark in a literal of the statement is replaced.
-/

namespace FluentSql

namespace Placeholder

/-- The text with each placeholder replaced by the next of some texts.  All other characters stay
where they are, question marks inside quotes among them. -/
def substitute : Option Char → List Char → List (List Char) → List Char
  | _, [], _ => []
  | _, cs, [] => cs
  | quote, c :: cs, t :: ts =>
    if quote.isNone && c == '?' then t ++ substitute (step quote c) cs ts
    else c :: substitute (step quote c) cs (t :: ts)

/-- No placeholder stands behind a question mark inside quotes. -/
def MarksLast (quote : Option Char) (cs : List Char) : Prop :=
  ∀ before after, cs = before ++ '?' :: after → scan quote before ≠ none →
    countFrom (scan quote (before ++ ['?'])) after = 0

variable {quote : Option Char} {c : Char} {cs t : List Char} {ts : List (List Char)}

theorem marksLast_nil : MarksLast quote [] := by
  intro before after h
  exact absurd h.symm (List.append_ne_nil_of_right_ne_nil _ (List.cons_ne_nil _ _))

theorem marksLast_cons : MarksLast quote (c :: cs) ↔
    (quote ≠ none → c = '?' → countFrom (step quote c) cs = 0) ∧ MarksLast (step quote c) cs := by
  constructor
  · intro h
    refine ⟨fun hquote hc => ?_, fun before after hcs hscan => ?_⟩
    · rw [hc]
      exact h [] cs (by rw [hc]; rfl) hquote
    · exact h (c :: before) after (by rw [hcs]; rfl) hscan
  · rintro ⟨hhead, htail⟩ before after hcs hscan
    cases before with
    | nil =>
      obtain ⟨rfl, rfl⟩ := List.cons.inj hcs
      exact hhead hscan rfl
    | cons d before =>
      obtain ⟨rfl, hrest⟩ := List.cons.inj hcs
      exact htail before after hrest hscan

/-- Behind all placeholders nothing is asked of a text. -/
theorem marksLast_of_countFrom_eq_zero (h : countFrom quote cs = 0) : MarksLast quote cs := by
  rintro before after rfl -
  rw [List.append_cons, countFrom_append] at h
  exact Nat.eq_zero_of_add_eq_zero_left h

/-! ### The two replacements -/

theorem fill_mark : fill ('?' :: cs) (t :: ts) = t ++ fill cs ts := rfl

theorem fill_cons (hc : c ≠ '?') : fill (c :: cs) (t :: ts) = c :: fill cs (t :: ts) := by
  rw [fill, if_neg hc]

theorem substitute_mark :
    substitute none ('?' :: cs) (t :: ts) = t ++ substitute none cs ts := rfl

/-- A character that is no placeholder stays. -/
theorem substitute_cons (h : (quote.isNone && c == '?') = false) :
    substitute quote (c :: cs) (t :: ts) = c :: substitute (step quote c) cs (t :: ts) := by
  rw [substitute, h]
  rfl

/-- A question mark inside quotes takes a text that begins otherwise. -/
theorem fill_ne_substitute {q d : Char} {ds : List Char} (hd : d ≠ '?') :
    fill ('?' :: cs) ((d :: ds) :: ts) ≠ substitute (some q) ('?' :: cs) ((d :: ds) :: ts) := by
  rw [fill_mark, substitute_cons rfl]
  intro h
  exact hd (List.cons.inj h).1

/-- **To replace every question mark is to replace every placeholder** exactly if no placeholder
stands behind a question mark inside quotes.  There are as many texts as placeholders, and none of
them begins with a question mark. -/
theorem fill_eq_substitute_iff (hcount : countFrom quote cs = ts.length)
    (hts : ∀ t ∈ ts, ∃ d ds, t = d :: ds ∧ d ≠ '?') :
    fill cs ts = substitute quote cs ts ↔ MarksLast quote cs := by
  induction cs generalizing quote ts with
  | nil =>
    have hfill : fill [] ts = [] := by cases ts <;> rfl
    exact iff_of_true hfill marksLast_nil
  | cons c cs ih =>
    cases ts with
    | nil => exact iff_of_true rfl (marksLast_of_countFrom_eq_zero hcount)
    | cons t ts =>
      rw [countFrom, List.length_cons] at hcount
      rw [marksLast_cons]
      by_cases hc : c = '?'
      · subst hc
        cases quote with
        | none =>
          -- a placeholder, which both replace
          have hrest : countFrom (step none '?') cs = ts.length := by
            simp at hcount
            omega
          have hstep : step none '?' = none := by decide
          rw [fill_mark, substitute_mark, List.append_cancel_left_eq, ← hstep,
            ih hrest fun u hu => hts u (List.mem_cons_of_mem t hu)]
          simp [hstep]
        | some q =>
          -- a mark inside quotes, with a placeholder still to come
          obtain ⟨d, ds, rfl, hd⟩ := hts t List.mem_cons_self
          have hlater : countFrom (step (some q) '?') cs ≠ 0 := by
            simp at hcount
            omega
          refine iff_of_false (fill_ne_substitute hd) fun h => hlater ?_
          exact h.1 (Option.some_ne_none q) rfl
      · -- any other character stays
        have hmark : (quote.isNone && c == '?') = false := by simp [hc]
        rw [hmark] at hcount
        rw [fill_cons hc, substitute_cons hmark, List.cons.injEq,
          ih (by simpa using hcount) hts]
        simp [hc]

end Placeholder

/-! ### The view of a builder -/

namespace Builder

/-- The text of the statement with the literal of each value in place of its placeholder. -/
def substituted (b : Builder) : String :=
  String.ofList
    (Placeholder.substitute none b.text.toList (b.params.map fun v => v.literal.toList))

/-- **The debug view is the statement with literals in place of its placeholders** exactly if no
placeholder stands behind a question mark inside quotes.  This holds in every state in which there
are as many placeholders as values. -/
theorem literalText_eq_substituted_iff {b : Builder}
    (h : Placeholder.count b.text = b.params.length) :
    b.literalText = b.substituted ↔ Placeholder.MarksLast none b.text.toList := by
  rw [literalText, substituted, String.ofList_inj]
  refine Placeholder.fill_eq_substitute_iff (by rw [List.length_map]; exact h) fun t ht => ?_
  obtain ⟨v, -, rfl⟩ := List.mem_map.mp ht
  exact v.toList_literal_eq_cons

/-- A literal of the caller holds a question mark, and a placeholder follows it. -/
def quotedMark : Builder :=
  (new .sqlite .default).run
    (.start (.raw "SELECT * FROM t WHERE note = 'why?' AND a = ?" [.int32 1]))

/-- The name of the result holds a question mark, and no placeholder follows it. -/
def lastMark : Builder :=
  (new .sqlite .default).run (.start (.raw "SELECT ? AS 'why?'" [.int32 1]))

/-- The view is right for the second of the two statements and wrong for the first. -/
theorem literalText_eq_substituted_iff_lastMark :
    Placeholder.count lastMark.text = lastMark.params.length ∧
      lastMark.literalText = "SELECT 1 AS 'why?'" ∧
      Placeholder.MarksLast none lastMark.text.toList ∧
      ¬Placeholder.MarksLast none quotedMark.text.toList := by
  refine ⟨rfl, rfl, ?_, fun h => ?_⟩
  · exact (literalText_eq_substituted_iff (b := lastMark) rfl).mp rfl
  · exact absurd ((literalText_eq_substituted_iff (b := quotedMark) rfl).mpr h) (by decide)

/-- The question mark inside quotes takes the value, and the placeholder is left without one. -/
theorem quotedMark_is_filled :
    quotedMark.error = none ∧ Placeholder.count quotedMark.text = quotedMark.params.length ∧
      quotedMark.literalText = "SELECT * FROM t WHERE note = 'why1' AND a = ?" ∧
      quotedMark.substituted = "SELECT * FROM t WHERE note = 'why?' AND a = 1" :=
  ⟨rfl, rfl, rfl, rfl⟩

end Builder

end FluentSql
