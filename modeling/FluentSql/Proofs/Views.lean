import FluentSql.Proofs.Extension
import FluentSql.Proofs.Identifiers

/-!
# The names of views

A view is created around a SELECT, and dropped by a statement of its own.  The definition writes
the name of the view between backticks as a whole, the removal writes it part by part.  So a name
with a point in it is one part where the view is created and several where it is dropped, and the
view that was created stays.

## Main definitions

* `createKeywords` — what stands in front of the name of a view that is created.
* `Builder.HoldsSelect` — the states in which a view is created.

## Main results

* `quoteIdentifier_eq_quoteQualified_iff` — the two ways to write a name agree on names without
  points.
* `Builder.error_run_createView_iff`, `Builder.text_run_createView` — when a view is created, and
  under which name.
* `Builder.run_dropView` — a view is dropped in every state.
* `Builder.createdView_eq_droppedView_iff` — **the view that is dropped is the one that was created
  exactly if its name has no point.**
* `Builder.pointedView_stays` — a view that is not dropped.
-/

namespace FluentSql

/-! ### Names with points -/

/-- A name is its only part exactly if it has no point. -/
theorem properParts_eq_singleton_iff {name : String} :
    properParts name = [trimmed name] ↔ '.' ∉ name.toList := by
  constructor
  · intro hparts hpoint
    obtain ⟨front, back, hname⟩ := List.append_of_mem hpoint
    have hpieces : Text.pieces (· == '.') name.toList =
        Text.pieces (· == '.') front ++ Text.pieces (· == '.') back := by
      rw [hname]
      exact Text.pieces_append_cons rfl front back
    -- there is a piece on each side of the point
    have hfront := List.length_pos_iff.mpr (Text.pieces_ne_nil (· == '.') front)
    have hback := List.length_pos_iff.mpr (Text.pieces_ne_nil (· == '.') back)
    have hlength := congrArg List.length hparts
    rw [properParts, nameParts, List.length_map, List.length_map, hpieces, List.length_append,
      List.length_singleton] at hlength
    omega
  · intro hpoint
    have hpieces : Text.pieces (· == '.') name.toList = [name.toList] := by
      refine Text.pieces_of_not_isSeparator fun c hc => beq_eq_false_iff_ne.mpr ?_
      rintro rfl
      exact hpoint hc
    rw [properParts, nameParts, hpieces, List.map_singleton, List.map_singleton,
      String.ofList_toList]

/-- **The two ways to write a name agree on names without points.** -/
theorem quoteIdentifier_eq_quoteQualified_iff {name : String} :
    quoteIdentifier name = quoteQualified name ↔ '.' ∉ name.toList := by
  rw [← properParts_eq_singleton_iff]
  constructor
  · intro h
    exact (isNameOf_quoteQualified name).parts_eq (h ▸ isNameOf_quoteIdentifier name)
  · intro h
    rw [← String.toList_inj, toList_quoteQualified_eq_spelled, h, spelled_singleton,
      toList_trimmed, toList_quoteIdentifier]

/-! ### Creating a view -/

/-- What stands in front of the name of a view that is created. -/
def createKeywords (ifNotExists : Bool) : String :=
  "CREATE VIEW " ++ if ifNotExists then "IF NOT EXISTS " else ""

namespace Builder

/-- The builder holds a SELECT that can be made a view: no set operator waits, and no error is
kept. -/
structure HoldsSelect (b : Builder) : Prop where
  kind : b.statement.kind = .select
  pending : b.statement.pending = none
  error : b.error = none

variable {b : Builder} {name : String}

/-- The statement becomes the content of a view. -/
theorem run_createView_of_holdsSelect (h : b.HoldsSelect) (hname : isBlankText name = false)
    (ifNotExists : Bool) :
    b.run (.createView name ifNotExists) = b.withView (some ⟨trimmed name, ifNotExists⟩) none := by
  have hkind : b.draft.statement.kind = .select := h.kind
  have hsection : b.draft.needsSection = false := congrArg Option.isSome h.pending
  have hedit : Draft.createView name ifNotExists b.draft =
      .ok () ⟨b.statement.setView (trimmed name) ifNotExists, b.draft.projection⟩ := by
    simp [Draft.createView, requireName, hname, hkind, hsection, statement]
  rw [run, extend_of_ok h.error hedit, withView, Statement.setView, trimmed_trimmed,
    ← h.error]

/-- **A view is created in the states that hold a SELECT and in no other.** -/
theorem error_run_createView_iff (hname : isBlankText name = false) (ifNotExists : Bool) :
    (b.run (.createView name ifNotExists)).error = none ↔ b.HoldsSelect := by
  constructor
  · intro hnone
    have hstep := b.step_run (.createView name ifNotExists)
    generalize b.run (.createView name ifNotExists) = b' at hstep hnone
    cases hstep with
    | frozen ho hv he =>
      rw [he] at hnone
      cases hnone
    | failed ho hv hb he => cases hnone
    | edited ho hv hb hd =>
      obtain ⟨hkind, hpending, -⟩ := Draft.createView_eq_ok hd
      exact ⟨hkind, hpending, hb⟩
  · intro h
    rw [run_createView_of_holdsSelect h hname]
    rfl

/-- **A view is created under its name as a whole.** -/
theorem text_run_createView (h : b.HoldsSelect) (hname : isBlankText name = false)
    (ifNotExists : Bool) :
    (b.run (.createView name ifNotExists)).text =
      createKeywords ifNotExists ++ quoteIdentifier name ++ " AS " ++ b.statement.body := by
  have hquote : quoteIdentifier (trimmed name) = quoteIdentifier name := by
    rw [quoteIdentifier_eq_iff, trimmed_trimmed]
  rw [run_createView_of_holdsSelect h hname, text, Statement.render_eq, createKeywords, ← hquote]
  rfl

/-! ### Dropping a view -/

/-- **A view is dropped in every state**, under the parts of its name. -/
theorem run_dropView (b : Builder) (hname : isBlankText name = false) (ifExists : Bool) :
    (b.run (.start (.dropView name ifExists))).error = none ∧
      (b.run (.start (.dropView name ifExists))).text =
        "DROP VIEW " ++ ifExistsText ifExists ++ quoteQualified (trimmed name) := by
  have hdraft : (Opening.dropView name ifExists).draft =
      .ok (.ofFragment .dropView
        (.ofSql ("DROP VIEW " ++ ifExistsText ifExists ++ quoteQualified (trimmed name)))) := by
    rw [Opening.draft, namedFragment, requireName, hname]
    rfl
  have hopens : b.opens (.start (.dropView name ifExists)) = true := rfl
  rw [run_of_opens hopens, hdraft]
  exact ⟨rfl, Statement.render_ofFragment .dropView _⟩

/-- **The view that is dropped is the one that was created exactly if its name has no point.**  A
name that is not blank creates a view in every state that holds a SELECT and in no other, and drops
one in every state.  The name stands behind the keywords: as one part where the view is created,
and in its parts where the view is dropped, whatever backticks and blanks there are in it.  The two
are the same text exactly if the name has no point. -/
theorem createdView_eq_droppedView_iff (b b' : Builder) {name : String}
    (hname : isBlankText name = false) (ifNotExists ifExists : Bool) :
    ((b.run (.createView name ifNotExists)).error = none ↔ b.HoldsSelect) ∧
    (b'.run (.start (.dropView name ifExists))).error = none ∧
    ∃ created dropped,
      (b.HoldsSelect →
        (b.run (.createView name ifNotExists)).text =
          createKeywords ifNotExists ++ created ++ " AS " ++ b.statement.body) ∧
      (b'.run (.start (.dropView name ifExists))).text =
        "DROP VIEW " ++ ifExistsText ifExists ++ dropped ∧
      IsNameOf created [trimmed name] ∧
      IsNameOf dropped (properParts (trimmed name)) ∧
      (created = dropped ↔ '.' ∉ name.toList) := by
  obtain ⟨herror, htext⟩ := run_dropView b' hname ifExists
  refine ⟨error_run_createView_iff hname ifNotExists, herror, quoteIdentifier name,
    quoteQualified (trimmed name), fun h => text_run_createView h hname ifNotExists, htext,
    isNameOf_quoteIdentifier name, isNameOf_quoteQualified (trimmed name), ?_⟩
  have hquote : quoteIdentifier name = quoteIdentifier (trimmed name) := by
    rw [quoteIdentifier_eq_iff, trimmed_trimmed]
  have hpoint : '.' ∈ (trimmed name).toList ↔ '.' ∈ name.toList := by
    rw [toList_trimmed]
    exact Text.mem_trim (by decide)
  rw [hquote, quoteIdentifier_eq_quoteQualified_iff, hpoint]

/-- A SELECT of all items. -/
def everyItem : Builder := (new .sqlite .default).run (.select (.named "items") [.star])

/-- A view of them, with a backtick in its name and blanks around it, is dropped under the name it
was created with. -/
theorem createdView_eq_droppedView_iff_tickedName :
    isBlankText " act`ive " = false ∧ everyItem.HoldsSelect ∧
      ∃ name, (everyItem.run (.createView " act`ive " true)).text =
          "CREATE VIEW IF NOT EXISTS " ++ name ++ " AS " ++ "SELECT * FROM `items`" ∧
        ((everyItem.run (.createView " act`ive " true)).run
          (.start (.dropView " act`ive " true))).text = "DROP VIEW IF EXISTS " ++ name := by
  have hname : isBlankText " act`ive " = false := by decide
  have hholds : everyItem.HoldsSelect := ⟨rfl, rfl, rfl⟩
  obtain ⟨-, -, created, dropped, hcreated, hdropped, -, -, hsame⟩ :=
    createdView_eq_droppedView_iff everyItem (everyItem.run (.createView " act`ive " true)) hname
      true true
  obtain rfl : created = dropped := hsame.mpr (by decide)
  have hcreate : createKeywords true = "CREATE VIEW IF NOT EXISTS " := by decide
  have hbody : everyItem.statement.body = "SELECT * FROM `items`" := by rfl
  have hdrop : "DROP VIEW " ++ ifExistsText true = "DROP VIEW IF EXISTS " := by decide
  have htext := hcreated hholds
  rw [hcreate, hbody] at htext
  rw [hdrop] at hdropped
  exact ⟨hname, hholds, created, htext, hdropped⟩

/-- A view of another database is created under a name with a point in it, and what is dropped is
a view of that database. -/
theorem pointedView_stays :
    (everyItem.run (.createView "shop.v" false)).text =
        "CREATE VIEW `shop.v` AS SELECT * FROM `items`" ∧
      (everyItem.run (.start (.dropView "shop.v" false))).text = "DROP VIEW `shop`.`v`" ∧
      ¬quoteIdentifier "shop.v" = quoteQualified "shop.v" := by
  refine ⟨by rfl, by rfl, ?_⟩
  rw [quoteIdentifier_eq_quoteQualified_iff]
  decide

end Builder

end FluentSql
