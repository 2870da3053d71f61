import FluentSql.Condition
import FluentSql.Proofs.Nesting

/-!
# Operands in parentheses

A nested SELECT stands in parentheses, as a table and behind `IN`.  Whether it has them already is
decided by its first character, and for a table by its last one as well, but the parenthesis that
is opened first need not be the one that is closed last.  So `(SELECT 1) UNION (SELECT 2)` gets no
parentheses, and what follows the first of its two groups is left to the statement around it.

## Main definitions

* `Text.IsGroup` — balanced text in parentheses of its own.
* `Text.ClosesEarly` — text whose first parenthesis is closed before the end.

## Main results

* `Text.isGroup_iff_not_closesEarly` — the texts that are groups as they are.
* `parenthesised_isGroup_iff`, `enclosed_isGroup_iff` — when a table and an operand are groups.
* `subquery_isGroup_iff` — **a nested SELECT stands in parentheses of its own exactly if its first
  parenthesis is not closed early.**
* `union_of_groups_is_not_enclosed` — a nested SELECT that gets no parentheses.
-/

namespace FluentSql

namespace Text

variable {cs : List Char}

/-! ### Groups -/

/-- The text is balanced text in parentheses: what it opens first it closes last. -/
def IsGroup (cs : List Char) : Prop := ∃ body, cs = '(' :: (body ++ [')']) ∧ Balanced body

/-- The text opens a parenthesis first, and has closed it before its end. -/
structure ClosesEarly (cs : List Char) : Prop where
  opened : cs.head? = some '('
  closed : ∃ n < cs.length, 0 < n ∧ depth (cs.take n) = 0

instance (cs : List Char) : Decidable (ClosesEarly cs) :=
  decidable_of_iff (cs.head? = some '(' ∧ ∃ n < cs.length, 0 < n ∧ depth (cs.take n) = 0)
    ⟨fun h => ⟨h.1, h.2⟩, fun h => ⟨h.opened, h.closed⟩⟩

theorem depth_open_cons (cs : List Char) : depth ('(' :: cs) = 1 + depth cs := by
  rw [depth, depth, List.count_cons_self, List.count_cons_of_ne (by decide)]
  omega

/-- Blanks at its ends do not matter for whether a text is balanced. -/
theorem Balanced.trim (h : Balanced cs) : Balanced (Text.trim cs) := by
  obtain ⟨front, back, hsplit, hfront, hback⟩ := exists_trim cs
  have hfront' : depth front = 0 := depth_of_allBlank hfront
  constructor
  · have hclosed := h.closed
    rw [hsplit, depth_append, depth_append, hfront', depth_of_allBlank hback] at hclosed
    omega
  · intro n hn
    have hlength : front.length + n < cs.length := by
      rw [hsplit, List.length_append, List.length_append]
      omega
    have hopened := h.opened (front.length + n) hlength
    rw [hsplit, List.take_length_add_append, List.take_append_of_le_length (Nat.le_of_lt hn),
      depth_append, hfront', Int.zero_add] at hopened
    exact hopened

/-- Within a group its first parenthesis is open. -/
theorem not_closesEarly_of_isGroup (h : IsGroup cs) : ¬ClosesEarly cs := by
  obtain ⟨body, rfl, hbody⟩ := h
  rintro ⟨-, n, hn, hpos, hdepth⟩
  obtain ⟨m, rfl⟩ := Nat.exists_eq_add_one_of_ne_zero (Nat.ne_of_gt hpos)
  rw [List.length_cons, List.length_append, List.length_singleton] at hn
  rw [List.take_succ_cons, List.take_append_of_le_length (by omega), depth_open_cons] at hdepth
  have hbalance : 0 ≤ depth (body.take m) := by
    by_cases hm : m < body.length
    · exact hbody.opened m hm
    · rw [List.take_of_length_le (by omega)]
      exact Int.le_of_eq hbody.closed.symm
  omega

/-- A balanced text whose first parenthesis stays open up to its last character closes it there. -/
theorem isGroup_of_not_closesEarly (hbalanced : Balanced cs) (hopen : cs.head? = some '(')
    (h : ¬ClosesEarly cs) : IsGroup cs := by
  obtain ⟨rest, rfl⟩ := List.head?_eq_some_iff.mp hopen
  -- behind the first parenthesis the depth is one less, and was not zero
  have hpositive (n : Nat) (hn : n < rest.length) : 0 ≤ depth (rest.take n) := by
    have hlength : n + 1 < ('(' :: rest).length := Nat.succ_lt_succ hn
    have hne : depth (('(' :: rest).take (n + 1)) ≠ 0 := fun hdepth =>
      h ⟨hopen, n + 1, hlength, Nat.succ_pos n, hdepth⟩
    have hopened := hbalanced.opened (n + 1) hlength
    rw [List.take_succ_cons, depth_open_cons] at hne hopened
    omega
  have hclosed := hbalanced.closed
  rw [depth_open_cons] at hclosed
  -- something has to close the first parenthesis, so there is a last character
  obtain rfl | ⟨body, last, rfl⟩ := List.eq_nil_or_concat rest
  · exact absurd hclosed (by decide)
  simp only [List.concat_eq_append] at hpositive hclosed ⊢
  rw [depth_append] at hclosed
  have hlast : depth [last] < 0 := by
    have hbody := hpositive body.length (by rw [List.length_append]; exact Nat.lt_succ_self _)
    rw [List.take_left] at hbody
    omega
  obtain rfl : ')' = last := List.mem_singleton.mp (mem_of_depth_neg hlast)
  refine ⟨body, rfl, ?_, fun n hn => ?_⟩
  · rw [show depth [')'] = -1 from rfl] at hclosed
    omega
  · have hbody := hpositive n (by rw [List.length_append]; exact Nat.lt_add_right 1 hn)
    rwa [List.take_append_of_le_length (Nat.le_of_lt hn)] at hbody

/-- The texts that are groups as they are. -/
theorem isGroup_iff_not_closesEarly (hbalanced : Balanced cs) (hopen : cs.head? = some '(') :
    IsGroup cs ↔ ¬ClosesEarly cs :=
  ⟨not_closesEarly_of_isGroup, isGroup_of_not_closesEarly hbalanced hopen⟩

/-- Balanced text becomes a group in parentheses. -/
theorem Balanced.isGroup (h : Balanced cs) : IsGroup ('(' :: (cs ++ [')'])) := ⟨cs, rfl, h⟩

end Text

/-! ### What is put in parentheses -/

section Operands

variable {cs : List Char} {q : String}

open Text (Balanced ClosesEarly IsGroup)

/-- A table is looked at from both ends. -/
theorem parenthesised_isGroup_iff (h : Balanced cs) :
    IsGroup (Table.parenthesised cs) ↔ ¬(ClosesEarly cs ∧ cs.getLast? = some ')') := by
  rw [Table.parenthesised]
  split
  · rename_i hends
    rw [Text.isGroup_iff_not_closesEarly h hends.1]
    exact not_congr ⟨fun hearly => ⟨hearly, hends.2⟩, fun hboth => hboth.1⟩
  · -- a text that closes early begins with a parenthesis, so the last character is another
    rename_i hends
    exact iff_of_true h.isGroup fun hboth => hends ⟨hboth.1.opened, hboth.2⟩

/-- An operand is looked at from its front only. -/
theorem enclosed_isGroup_iff {operator : Comparison} {sql : String}
    (hmember : operator.isMembership = true) (h : Balanced sql.toList) :
    IsGroup (Condition.enclosed operator sql).toList ↔ ¬ClosesEarly sql.toList := by
  rw [Condition.enclosed, hmember, Bool.true_and]
  by_cases hopen : sql.toList.head? = some '('
  · rw [if_neg (by rw [hopen]; decide)]
    exact Text.isGroup_iff_not_closesEarly h hopen
  · rw [if_pos (bne_iff_ne.mpr hopen), String.toList_append, String.toList_append]
    exact iff_of_true h.isGroup fun hearly => hopen hearly.opened

/-- Parentheses are put around the whole text. -/
theorem isInfix_parenthesised (cs : List Char) : cs <:+: Table.parenthesised cs := by
  rw [Table.parenthesised]
  split
  · exact List.infix_rfl
  · exact List.infix_append ['('] cs [')']

theorem isInfix_enclosed (operator : Comparison) (sql : String) :
    sql.toList <:+: (Condition.enclosed operator sql).toList := by
  rw [Condition.enclosed]
  split
  · rw [String.toList_append, String.toList_append]
    exact List.infix_append _ _ _
  · exact List.infix_rfl

/-- **A nested SELECT stands in parentheses of its own exactly if its first parenthesis is not
closed early.**  For every text that is not blank and closes its parentheses there is SQL, for the
table as well as for the operand of a test for membership, and all of the text stands in it.  What
is rendered for the table is a group unless the text opens a parenthesis first, closes it before
its end and ends with another one; the operand is a group unless the text opens a parenthesis first
and closes it before its end. -/
theorem subquery_isGroup_iff (hq : isBlankText q = false) (hbalanced : Balanced q.toList) :
    (∃ sql, (Table.subquery q).render = .ok sql ∧ (trimmed q).toList <:+: sql.toList ∧
      (IsGroup sql.toList ↔
        ¬(ClosesEarly (trimmed q).toList ∧ (trimmed q).toList.getLast? = some ')'))) ∧
    ∀ (field : Field) (left : String) (operator : Comparison), field.render = .ok left →
      operator.isMembership = true →
      ∃ right, (Condition.compare field operator (.raw q)).compile =
          .ok ⟨"(" ++ left ++ " " ++ operator.text ++ " " ++ right ++ ")", []⟩ ∧
        (trimmed q).toList <:+: right.toList ∧
        (IsGroup right.toList ↔ ¬ClosesEarly (trimmed q).toList) := by
  have htrimmed : Balanced (trimmed q).toList := by
    rw [toList_trimmed]
    exact hbalanced.trim
  refine ⟨⟨String.ofList (Table.parenthesised (trimmed q).toList), ?_, ?_, ?_⟩,
    fun field left operator hleft hmember => ⟨Condition.enclosed operator (trimmed q), ?_,
      isInfix_enclosed operator (trimmed q), enclosed_isGroup_iff hmember htrimmed⟩⟩
  · rw [Table.render, hq, if_neg (by decide), toList_trimmed]
  · rw [String.toList_ofList]
    exact isInfix_parenthesised _
  · rw [String.toList_ofList]
    exact parenthesised_isGroup_iff htrimmed
  · rw [Condition.compile, hleft]
    rfl

/-- A SELECT with a call in it is put in parentheses, and one that has them is left as it is. -/
theorem subquery_isGroup_call :
    isBlankText "SELECT max(id) FROM t" = false ∧
    Balanced "SELECT max(id) FROM t".toList ∧
    (∃ sql, (Table.subquery "SELECT max(id) FROM t").render = .ok sql ∧ IsGroup sql.toList) ∧
    ∃ right, (Condition.compare (.column "id") .member (.raw " (SELECT max(id) FROM t)")).compile =
        .ok ⟨"(`id` IN " ++ right ++ ")", []⟩ ∧ IsGroup right.toList := by
  have hbare : isBlankText "SELECT max(id) FROM t" = false := by decide +kernel
  have hbalanced : Balanced "SELECT max(id) FROM t".toList := by decide +kernel
  obtain ⟨⟨sql, hsql, -, hgroup⟩, -⟩ := subquery_isGroup_iff hbare hbalanced
  have hmember := (subquery_isGroup_iff (q := " (SELECT max(id) FROM t)") (by decide +kernel)
    (by decide +kernel)).2 (.column "id") "`id`" .member
    (congrArg Except.ok (by decide +kernel)) rfl
  obtain ⟨right, hright, -, hoperand⟩ := hmember
  exact ⟨hbare, hbalanced, ⟨sql, hsql, hgroup.mpr fun hboth => absurd hboth.1 (by decide +kernel)⟩,
    right, hright, hoperand.mpr (by decide +kernel)⟩

/-- Two groups side by side are taken for one: the table and the operand end where the first of
them does. -/
theorem union_of_groups_is_not_enclosed :
    isBlankText "(SELECT 1) UNION (SELECT 2)" = false ∧
    "(SELECT 1) UNION (SELECT 2)".toList.any isQuote = false ∧
    Balanced "(SELECT 1) UNION (SELECT 2)".toList ∧
    (Table.subquery "(SELECT 1) UNION (SELECT 2)").render = .ok "(SELECT 1) UNION (SELECT 2)" ∧
    (Condition.compare (.column "id") .member (.raw "(SELECT 1) UNION (SELECT 2)")).compile =
      .ok ⟨"(`id` IN (SELECT 1) UNION (SELECT 2))", []⟩ ∧
    ¬IsGroup "(SELECT 1) UNION (SELECT 2)".toList := by
  have hearly : ClosesEarly "(SELECT 1) UNION (SELECT 2)".toList := by decide +kernel
  refine ⟨by decide +kernel, by decide, by decide +kernel, ?_, ?_,
    fun hgroup => Text.not_closesEarly_of_isGroup hgroup hearly⟩
  · exact congrArg Except.ok (by decide +kernel)
  · exact congrArg Except.ok (by decide +kernel)

end Operands

end FluentSql
