import FluentSql.Proofs.Placeholders
import FluentSql.Proofs.Values

/-!
# Placeholders of what verbs write

Names are quoted, values are placeholders, and the rest of what a verb writes is fixed or text of
the caller that is passed on as it is.  If such text leaves no quote open and holds no placeholder
of its own, then a verb writes one placeholder for each value that it carries, and leaves no quote
open either.

## Main definitions

* `Field.verbatim`, `Table.verbatim`, `Clause.verbatim`, `Opening.verbatim`, `Verb.verbatim` — the
  texts that are passed on.
* `Verb.callerSql?` — the statement that a caller wrote, which may hold placeholders.
* `Verb.IsClean` — what is asked of both.

## Main results

* `Clause.holds_compile` — a clause writes one placeholder for each of its values.
* `Opening.holds_draft` — so does an opening.
-/

namespace FluentSql

open Placeholder

/-! ### The texts that are passed on -/

def Field.verbatim : Field → List String
  | star | column _ => []
  | expression sql => [sql]
  | aliased field _ => field.verbatim

mutual

def Table.verbatim : Table → List String
  | .named _ => []
  | .subquery sql | .expression sql => [sql]
  | .aliased table _ => table.verbatim
  | .list tables => Table.verbatimEach tables

def Table.verbatimEach : List Table → List String
  | [] => []
  | t :: ts => t.verbatim ++ Table.verbatimEach ts

end

def Field.verbatimEach (fields : List Field) : List String := fields.flatMap verbatim

/-- The texts that a column passes on, which is one if it names an expression. -/
def Field.verbatimOf (column : String) : List String := (Field.parse column).verbatim

def JoinOn.verbatim : JoinOn → List String
  | nothing => []
  | columns left right => Field.verbatimOf left ++ Field.verbatimOf right
  | raw sql => [sql]

def Operand.verbatim : Operand → List String
  | value _ | list _ => []
  | column field => field.verbatim
  | raw sql => [sql]

def Condition.verbatim : Condition → List String
  | compare field _ operand => field.verbatim ++ operand.verbatim
  | null field _ => field.verbatim
  | raw sql => [sql]

def Filter.Node.verbatim : Filter.Node → List String
  | condition c => c.verbatim
  | connective _ => []

def Filter.verbatim (f : Filter) : List String := f.nodes.flatMap Filter.Node.verbatim

def Clause.verbatim : Clause → List String
  | join table on _ => table.verbatim ++ on.verbatim
  | filter conditions extra => conditions.verbatim ++ [extra]
  | having conditions => conditions.verbatim
  | limit _ | offset _ => []
  | orderBy keys => keys.flatMap fun key => Field.verbatimOf key.field
  | groupBy fields => Field.verbatimEach fields

/-- The texts that a SELECT passes on, at once or when a later section repeats its projection: all
columns of a computed expression are repeated as the field that this expression names. -/
def Selection.verbatim (s : Selection) : List String :=
  Field.verbatimEach s.fields ++ s.table.verbatim ++
    match s.table with
    | .expression sql => if s.fields == [.star] then Field.verbatimOf (trimmed sql) else []
    | _ => []

/-- The texts that an opening passes on, but for a statement that the caller wrote. -/
def Opening.verbatim : Opening → List String
  | select selection => selection.verbatim
  | insert table batch => table.verbatim ++ batch.columns.flatMap Field.verbatimOf
  | update table assignments =>
    assignments.flatMap (fun a => Field.verbatimOf a.1) ++ table.verbatim
  | delete table => table.verbatim
  | dropView .. | dropTable .. | truncate _ | raw .. => []

/-- The texts that a verb passes on, but for a statement that the caller wrote. -/
def Verb.verbatim : Verb → List String
  | start opening => opening.verbatim
  | clause c => c.verbatim
  | like field _ _ | nullTest field _ => Field.verbatimOf field
  | combineSelect _ table => table.verbatim
  | combine _ | createView .. | setError _ | reset => []

def Opening.callerSql? : Opening → Option String
  | raw sql _ => some sql
  | _ => none

/-- The statement that a caller wrote. -/
def Verb.callerSql? : Verb → Option String
  | start opening => opening.callerSql?
  | _ => none

/-- None of the texts leaves a quote open or holds a placeholder. -/
def AllClean (ss : List String) : Prop := ∀ s ∈ ss, IsClean s

/-- What an opening passes on is clean, and a statement that the caller wrote leaves no quote
open. -/
def Opening.IsClean (o : Opening) : Prop :=
  AllClean o.verbatim ∧ ∀ sql ∈ o.callerSql?, IsClosed sql

/-- What a verb passes on is clean, and a statement that the caller wrote leaves no quote open. -/
def Verb.IsClean (v : Verb) : Prop :=
  AllClean v.verbatim ∧ ∀ sql ∈ v.callerSql?, IsClosed sql

instance (ss : List String) : Decidable (AllClean ss) :=
  inferInstanceAs (Decidable (∀ s ∈ ss, Placeholder.IsClean s))

instance (v : Verb) : Decidable v.IsClean :=
  inferInstanceAs (Decidable (AllClean v.verbatim ∧ ∀ sql, sql ∈ v.callerSql? → IsClosed sql))

theorem allClean_append {ss ts : List String} :
    AllClean (ss ++ ts) ↔ AllClean ss ∧ AllClean ts := List.forall_mem_append

theorem allClean_singleton {s : String} : AllClean [s] ↔ IsClean s := List.forall_mem_singleton

/-! ### Fields and tables -/

theorem Field.clean_render {field : Field} {s : String} (hf : AllClean field.verbatim)
    (h : field.render = .ok s) : IsClean s := by
  induction field generalizing s with
  | star =>
    cases h
    decide
  | column name =>
    simp only [render, ite_error_eq_ok_iff] at h
    cases h.2
    exact clean_quoteQualified name
  | expression sql =>
    simp only [render, ite_error_eq_ok_iff] at h
    cases h.2
    exact holds_trimmed (allClean_singleton.mp hf)
  | aliased field label ih =>
    simp only [render, bind_eq_ok_iff, pure_eq_ok_iff] at h
    obtain ⟨inner, hinner, rfl⟩ := h
    have has : IsClean (inner ++ " AS ") := holds_append_left (ih hf hinner) (by decide)
    exact holds_append_left has (clean_quoteIdentifier label)

theorem Field.clean_renderEach {fields : List Field} {ss : List String}
    (hf : AllClean (verbatimEach fields)) (h : renderEach fields = .ok ss) : AllClean ss := by
  induction fields generalizing ss with
  | nil =>
    cases h
    exact fun _ hs => by cases hs
  | cons field fields ih =>
    simp only [renderEach, bind_eq_ok_iff, pure_eq_ok_iff] at h
    obtain ⟨s, hs, rest, hrest, rfl⟩ := h
    rw [verbatimEach, List.flatMap_cons, allClean_append] at hf
    exact List.forall_mem_cons.mpr ⟨clean_render hf.1 hs, ih hf.2 hrest⟩

theorem Field.clean_renderList {fields : List Field} {s : String}
    (hf : AllClean (verbatimEach fields)) (h : renderList fields = .ok s) : IsClean s := by
  simp only [renderList, ite_error_eq_ok_iff, bind_eq_ok_iff, pure_eq_ok_iff] at h
  obtain ⟨-, ss, hss, rfl⟩ := h
  exact clean_intercalate (by decide) (clean_renderEach hf hss)

theorem clean_parenthesised {s : String} (h : IsClean s) :
    IsClean (String.ofList (Table.parenthesised s.toList)) := by
  rw [Table.parenthesised]
  split
  · rwa [String.ofList_toList]
  · have hopen : IsClean ("(" ++ s ++ ")") :=
      holds_append_left (holds_append_right (by decide) h) (by decide)
    have heq : String.ofList ('(' :: (s.toList ++ [')'])) = "(" ++ s ++ ")" := by
      rw [← String.toList_inj]
      simp
    rwa [heq]

mutual

theorem Table.clean_render {table : Table} {s : String} (ht : AllClean table.verbatim)
    (h : table.render = .ok s) : IsClean s := by
  cases table with
  | named name =>
    simp only [render, ite_error_eq_ok_iff] at h
    cases h.2
    exact clean_quoteQualified name
  | subquery sql =>
    simp only [render, ite_error_eq_ok_iff] at h
    cases h.2
    rw [verbatim, allClean_singleton] at ht
    rw [← toList_trimmed]
    exact clean_parenthesised (holds_trimmed ht)
  | expression sql =>
    simp only [render, ite_error_eq_ok_iff] at h
    cases h.2
    rw [verbatim, allClean_singleton] at ht
    exact holds_trimmed ht
  | aliased table label =>
    simp only [render, bind_eq_ok_iff, pure_eq_ok_iff] at h
    obtain ⟨inner, hinner, rfl⟩ := h
    rw [verbatim] at ht
    have has : IsClean (inner ++ " AS ") :=
      holds_append_left (Table.clean_render ht hinner) (by decide)
    exact holds_append_left has (clean_quoteIdentifier label)
  | list tables =>
    simp only [render, ite_error_eq_ok_iff, bind_eq_ok_iff, pure_eq_ok_iff] at h
    obtain ⟨-, ss, hss, rfl⟩ := h
    rw [verbatim] at ht
    exact clean_intercalate (by decide) (Table.clean_renderEach ht hss)

theorem Table.clean_renderEach {tables : List Table} {ss : List String}
    (ht : AllClean (Table.verbatimEach tables)) (h : Table.renderEach tables = .ok ss) :
    AllClean ss := by
  cases tables with
  | nil =>
    cases h
    exact fun _ hs => by cases hs
  | cons table tables =>
    simp only [renderEach, bind_eq_ok_iff, pure_eq_ok_iff] at h
    obtain ⟨s, hs, rest, hrest, rfl⟩ := h
    rw [verbatimEach, allClean_append] at ht
    exact List.forall_mem_cons.mpr
      ⟨Table.clean_render ht.1 hs, Table.clean_renderEach ht.2 hrest⟩

end

/-! ### Conditions and filters -/

theorem Condition.holds_operandFragment {operand : Operand} {f : Fragment}
    (ho : AllClean operand.verbatim) (h : operandFragment operand = .ok f) :
    Holds operand.values.length f.sql := by
  cases operand with
  | value v =>
    cases h
    show Holds 1 "?"
    decide
  | list vs =>
    simp only [operandFragment, ite_error_eq_ok_iff] at h
    cases h.2
    exact holds_marks vs.length
  | column field =>
    simp only [operandFragment, bind_eq_ok_iff, pure_eq_ok_iff] at h
    obtain ⟨s, hs, rfl⟩ := h
    exact Field.clean_render ho hs
  | raw sql =>
    cases h
    exact holds_trimmed (allClean_singleton.mp ho)

theorem Condition.holds_enclosed {n : Nat} {operator : Comparison} {sql : String}
    (h : Holds n sql) : Holds n (enclosed operator sql) := by
  rw [enclosed]
  split
  · exact holds_append_left (holds_append_right (by decide) h) (by decide)
  · exact h

theorem Comparison.clean_text (operator : Comparison) : IsClean operator.text := by
  cases operator <;> decide

theorem Condition.holds_compile {c : Condition} {f : Fragment} (hc : AllClean c.verbatim)
    (h : c.compile = .ok f) : Holds c.values.length f.sql := by
  cases c with
  | compare field operator operand =>
    simp only [compile, bind_eq_ok_iff, pure_eq_ok_iff] at h
    obtain ⟨left, hleft, right, hright, rfl⟩ := h
    rw [verbatim, allClean_append] at hc
    have hfield : IsClean ("(" ++ left ++ " ") :=
      holds_append_left (holds_append_right (by decide) (Field.clean_render hc.1 hleft))
        (by decide)
    have hoperator : IsClean ("(" ++ left ++ " " ++ operator.text ++ " ") :=
      holds_append_left (holds_append_left hfield operator.clean_text) (by decide)
    exact holds_append_left
      (holds_append_right hoperator (holds_enclosed (holds_operandFragment hc.2 hright)))
      (by decide)
  | null field negated =>
    simp only [compile, bind_eq_ok_iff, pure_eq_ok_iff] at h
    obtain ⟨left, hleft, rfl⟩ := h
    have hfield : IsClean ("(" ++ left) :=
      holds_append_right (by decide) (Field.clean_render hc hleft)
    exact holds_append_left hfield (by cases negated <;> decide)
  | raw sql =>
    simp only [compile, ite_error_eq_ok_iff] at h
    cases h.2
    exact allClean_singleton.mp hc

theorem Filter.Node.holds_compile {n : Filter.Node} {f : Fragment} (hn : AllClean n.verbatim)
    (h : n.compile = .ok f) : Holds n.values.length f.sql := by
  cases n with
  | condition c => exact c.holds_compile hn h
  | connective c =>
    cases h
    show IsClean (" " ++ c.text ++ " ")
    cases c <;> decide

theorem Filter.holds_compileNodes {ns : List Filter.Node} {f : Fragment}
    (hns : AllClean (ns.flatMap Node.verbatim)) (h : compileNodes ns = .ok f) :
    Holds (ns.flatMap Node.values).length f.sql := by
  induction ns generalizing f with
  | nil =>
    cases h
    exact holds_empty
  | cons n ns ih =>
    simp only [compileNodes, bind_eq_ok_iff, pure_eq_ok_iff] at h
    obtain ⟨first, hfirst, rest, hrest, rfl⟩ := h
    rw [List.flatMap_cons, allClean_append] at hns
    rw [List.flatMap_cons, List.length_append, Fragment.sql_append]
    exact holds_append (Node.holds_compile hns.1 hfirst) (ih hns.2 hrest)

theorem Filter.holds_compile {c : Filter} {f : Fragment} (hc : AllClean c.verbatim)
    (h : c.compile = .ok f) : Holds c.values.length f.sql :=
  holds_compileNodes hc (compile_eq_ok h).2

/-! ### Clauses -/

theorem Clause.clean_onText {on : JoinOn} {s : String} (hon : AllClean on.verbatim)
    (h : onText on = .ok s) : IsClean s := by
  cases on with
  | nothing =>
    cases h
    exact holds_empty
  | columns left right =>
    simp only [onText, bind_eq_ok_iff, pure_eq_ok_iff] at h
    obtain ⟨l, hl, r, hr, rfl⟩ := h
    rw [JoinOn.verbatim, allClean_append] at hon
    have hleft : IsClean (" ON " ++ l ++ " = ") :=
      holds_append_left (holds_append_right (by decide) (Field.clean_render hon.1 hl)) (by decide)
    exact holds_append_left hleft (Field.clean_render hon.2 hr)
  | raw sql =>
    cases h
    exact holds_append_right (by decide) (holds_trimmed (allClean_singleton.mp hon))

theorem Clause.clean_keyTexts {keys : List SortKey} {ss : List String}
    (hk : AllClean (keys.flatMap fun key => Field.verbatimOf key.field))
    (h : keyTexts keys = .ok ss) : AllClean ss := by
  induction keys generalizing ss with
  | nil =>
    cases h
    exact fun _ hs => by cases hs
  | cons key keys ih =>
    simp only [keyTexts, bind_eq_ok_iff, pure_eq_ok_iff] at h
    obtain ⟨s, hs, rest, hrest, rfl⟩ := h
    rw [List.flatMap_cons, allClean_append] at hk
    have hdirection : IsClean key.direction.text := by cases key.direction <;> decide
    have hfirst : IsClean (s ++ " " ++ key.direction.text) :=
      holds_append_left (holds_append_left (Field.clean_render hk.1 hs) (by decide)) hdirection
    exact List.forall_mem_cons.mpr ⟨hfirst, ih hk.2 hrest⟩

/-- **A clause writes one placeholder for each of its values**, and leaves no quote open, if what it
passes on is clean. -/
theorem Clause.holds_compile {dialect : Dialect} {c : Clause} {f : Fragment}
    (hc : AllClean c.verbatim) (h : c.compile dialect = .ok f) :
    Holds c.values.length f.sql := by
  cases c with
  | join table on request =>
    simp only [compile, ite_error_eq_ok_iff, bind_eq_ok_iff, pure_eq_ok_iff] at h
    obtain ⟨-, type, -, source, hsource, tail, htail, rfl⟩ := h
    rw [verbatim, allClean_append] at hc
    have htype : IsClean (" " ++ type.text ++ " JOIN ") := by cases type <;> decide
    exact holds_append_left (holds_append_right htype (Table.clean_render hc.1 hsource))
      (clean_onText hc.2 htail)
  | filter conditions extra =>
    simp only [compile, ite_error_eq_ok_iff, bind_eq_ok_iff, pure_eq_ok_iff] at h
    obtain ⟨-, g, hg, rfl⟩ := h
    rw [verbatim, allClean_append, allClean_singleton] at hc
    refine holds_append_left (holds_append_right (by decide) (Filter.holds_compile hc.1 hg)) ?_
    -- a blank text of the caller is left out
    split
    · exact holds_empty
    · exact holds_append_right (by decide) (holds_trimmed hc.2)
  | having conditions =>
    simp only [compile, ite_error_eq_ok_iff, bind_eq_ok_iff, pure_eq_ok_iff] at h
    obtain ⟨-, g, hg, rfl⟩ := h
    exact holds_append_right (by decide) (Filter.holds_compile hc hg)
  | limit n =>
    cases h
    exact holds_append_right (by decide) (clean_naturalText n)
  | offset n =>
    cases h
    exact holds_append_right (by decide) (clean_naturalText n)
  | orderBy keys =>
    simp only [compile, ite_error_eq_ok_iff, bind_eq_ok_iff, pure_eq_ok_iff] at h
    obtain ⟨-, ss, hss, rfl⟩ := h
    exact holds_append_right (by decide) (clean_intercalate (by decide) (clean_keyTexts hc hss))
  | groupBy fields =>
    simp only [compile, ite_error_eq_ok_iff, bind_eq_ok_iff, pure_eq_ok_iff] at h
    obtain ⟨-, s, hs, rfl⟩ := h
    exact holds_append_right (by decide) (Field.clean_renderList hc hs)

/-! ### Openings -/

/-- A SELECT writes no placeholder, and neither does the projection that it leaves behind. -/
theorem Selection.clean_compile {s : Selection} {sql : String} {projection : List Field}
    (hs : AllClean s.verbatim) (h : s.compile = .ok (sql, projection)) :
    IsClean sql ∧ AllClean (Field.verbatimEach projection) := by
  simp only [compile, ite_error_eq_ok_iff] at h
  obtain ⟨-, h⟩ := h
  rw [verbatim, allClean_append, allClean_append] at hs
  obtain ⟨⟨hfields, htable⟩, hrepeated⟩ := hs
  have hhead : IsClean ("SELECT " ++ if s.distinct then "DISTINCT " else "") := by
    cases s.distinct <;> decide
  split at h
  · rename_i hall
    simp only [bind_eq_ok_iff, pure_eq_ok_iff] at h
    obtain ⟨expression, hexpression, heq⟩ := h
    cases heq
    refine ⟨holds_append_right hhead (Table.clean_render htable hexpression), ?_⟩
    -- the projection is the field that the expression names
    cases htab : s.table with
    | expression text =>
      rw [htab] at hrepeated hexpression hall
      rw [Bool.and_eq_true] at hall
      simp only [hall.2, if_true] at hrepeated
      simp only [Table.render, ite_error_eq_ok_iff] at hexpression
      cases hexpression.2
      rwa [Field.verbatimEach, List.flatMap_singleton]
    | _ =>
      rw [htab] at hall
      cases hall
  · simp only [bind_eq_ok_iff, pure_eq_ok_iff] at h
    obtain ⟨fields, hf, source, ht, heq⟩ := h
    cases heq
    have hfields' : IsClean fields := Field.clean_renderList hfields hf
    refine ⟨?_, hfields⟩
    exact holds_append_left (holds_append_left (holds_append_right hhead hfields') (by decide))
      (Table.clean_render htable ht)

theorem holds_insertFragment {table : Table} {batch : Batch} {f : Fragment}
    (hv : AllClean (table.verbatim ++ batch.columns.flatMap Field.verbatimOf))
    (h : insertFragment table batch = .ok f) : Holds batch.values.length f.sql := by
  simp only [insertFragment, ite_error_eq_ok_iff, bind_eq_ok_iff, pure_eq_ok_iff] at h
  obtain ⟨-, hrect, source, hsource, columns, hcolumns, rfl⟩ := h
  rw [allClean_append] at hv
  have hfields : AllClean (Field.verbatimEach (batch.columns.map Field.parse)) := by
    rw [Field.verbatimEach, List.flatMap_map]
    exact hv.2
  have hinto : IsClean ("INSERT INTO " ++ source ++ " (") :=
    holds_append_left (holds_append_right (by decide) (Table.clean_render hv.1 hsource))
      (by decide)
  have hhead : IsClean ("INSERT INTO " ++ source ++ " (" ++ columns ++ ") VALUES ") :=
    holds_append_left (holds_append_left hinto (Field.clean_renderList hfields hcolumns))
      (by decide)
  have hgroup : Holds batch.columns.length
      ("(" ++ Placeholder.marks batch.columns.length ++ ")") :=
    holds_append_left (holds_append_right (by decide) (holds_marks _)) (by decide)
  have hgroups := holds_replicate (by decide : IsClean ",") hgroup batch.rows.length
  rw [Bool.not_eq_true', Bool.not_eq_false] at hrect
  rw [← Batch.length_values hrect] at hgroups
  exact holds_append_right hhead hgroups

theorem holds_assignmentTexts {assignments : List Assignment} {ss : List String}
    (hv : AllClean (assignments.flatMap fun a => Field.verbatimOf a.1))
    (h : assignmentTexts assignments = .ok ss) :
    ss.length = assignments.length ∧ ∀ s ∈ ss, Holds 1 s := by
  induction assignments generalizing ss with
  | nil =>
    cases h
    exact ⟨rfl, fun _ hs => by cases hs⟩
  | cons assignment assignments ih =>
    simp only [assignmentTexts, bind_eq_ok_iff, pure_eq_ok_iff] at h
    obtain ⟨column, hcolumn, rest, hrest, rfl⟩ := h
    rw [List.flatMap_cons, allClean_append] at hv
    obtain ⟨hlength, hall⟩ := ih hv.2 hrest
    refine ⟨by rw [List.length_cons, List.length_cons, hlength], ?_⟩
    have hfirst : Holds 1 (column ++ " = ?") :=
      holds_append_right (Field.clean_render hv.1 hcolumn) (by decide)
    exact List.forall_mem_cons.mpr ⟨hfirst, hall⟩

theorem holds_updateFragment {table : Table} {assignments : List Assignment} {f : Fragment}
    (hv : AllClean (assignments.flatMap (fun a => Field.verbatimOf a.1) ++ table.verbatim))
    (h : updateFragment table assignments = .ok f) :
    Holds (assignments.map Prod.snd).length f.sql := by
  simp only [updateFragment, ite_error_eq_ok_iff, bind_eq_ok_iff, pure_eq_ok_iff] at h
  obtain ⟨-, sets, hsets, source, hsource, rfl⟩ := h
  rw [allClean_append] at hv
  obtain ⟨hlength, hall⟩ := holds_assignmentTexts hv.1 hsets
  have hhead : IsClean ("UPDATE " ++ source ++ " SET ") :=
    holds_append_left (holds_append_right (by decide) (Table.clean_render hv.2 hsource))
      (by decide)
  have hlist := holds_intercalate (by decide : IsClean ", ") hall
  rw [hlength, Nat.mul_one] at hlist
  rw [List.length_map]
  exact holds_append_right hhead hlist

theorem clean_deleteFragment {table : Table} {f : Fragment} (hv : AllClean table.verbatim)
    (h : deleteFragment table = .ok f) : IsClean f.sql := by
  simp only [deleteFragment, ite_error_eq_ok_iff, bind_eq_ok_iff, pure_eq_ok_iff] at h
  obtain ⟨-, source, hsource, rfl⟩ := h
  exact holds_append_right (by decide) (Table.clean_render hv hsource)

theorem clean_namedFragment {keywords name argument context : String} {f : Fragment}
    (hk : IsClean keywords) (h : namedFragment keywords name argument context = .ok f) :
    IsClean f.sql := by
  simp only [namedFragment, bind_eq_ok_iff, pure_eq_ok_iff] at h
  obtain ⟨name', -, rfl⟩ := h
  exact holds_append_right hk (clean_quoteQualified name')

/-- The text of the caller has been checked to hold one placeholder for each value. -/
theorem holds_rawFragment {sql : String} {params : List Value} {f : Fragment}
    (hs : IsClosed sql) (h : rawFragment sql params = .ok f) : Holds params.length f.sql := by
  simp only [rawFragment, ite_error_eq_ok_iff] at h
  obtain ⟨-, hcount, hf⟩ := h
  rw [bne_iff_ne, ne_eq, Decidable.not_not] at hcount
  -- the check counted the text before it was trimmed
  cases hf
  rw [← hcount]
  exact holds_trimmed (holds_of_isClosed hs)

/-- The projection that a draft remembers passes on clean texts only. -/
def Draft.HasCleanProjection (d : Draft) : Prop := AllClean (Field.verbatimEach d.projection)

theorem Statement.render_start (kind : StatementKind) (sql : String) :
    (start kind sql).render = sql := by
  simp [render, start, Section.render]

theorem Statement.render_ofFragment (kind : StatementKind) (f : Fragment) :
    (ofFragment kind f).render = f.sql :=
  render_start kind f.sql

/-- The draft of a statement that is no SELECT remembers nothing. -/
theorem Draft.holds_ofFragment {n : Nat} {kind : StatementKind} {f : Fragment}
    (h : Holds n f.sql) :
    Holds n (Draft.ofFragment kind f).statement.render ∧
      (Draft.ofFragment kind f).HasCleanProjection := by
  refine ⟨?_, fun _ hs => by cases hs⟩
  rw [Draft.ofFragment, Statement.render_ofFragment]
  exact h

/-- **An opening writes one placeholder for each of its values**, and leaves no quote open, if what
it passes on is clean. -/
theorem Opening.holds_draft {o : Opening} {d : Draft} (ho : o.IsClean) (h : o.draft = .ok d) :
    Holds o.values.length d.statement.render ∧ d.HasCleanProjection := by
  obtain ⟨hv, hraw⟩ := ho
  cases o with
  | select selection =>
    simp only [draft, bind_eq_ok_iff, pure_eq_ok_iff] at h
    obtain ⟨⟨sql, projection⟩, hs, rfl⟩ := h
    rw [Statement.render_start]
    exact Selection.clean_compile hv hs
  | insert table batch =>
    simp only [draft, bind_eq_ok_iff, pure_eq_ok_iff] at h
    obtain ⟨f, hf, rfl⟩ := h
    exact Draft.holds_ofFragment (holds_insertFragment hv hf)
  | update table assignments =>
    simp only [draft, bind_eq_ok_iff, pure_eq_ok_iff] at h
    obtain ⟨f, hf, rfl⟩ := h
    exact Draft.holds_ofFragment (holds_updateFragment hv hf)
  | delete table =>
    simp only [draft, bind_eq_ok_iff, pure_eq_ok_iff] at h
    obtain ⟨f, hf, rfl⟩ := h
    exact Draft.holds_ofFragment (clean_deleteFragment hv hf)
  | dropView name ifExists =>
    simp only [draft, bind_eq_ok_iff, pure_eq_ok_iff] at h
    obtain ⟨f, hf, rfl⟩ := h
    exact Draft.holds_ofFragment (clean_namedFragment (by cases ifExists <;> decide) hf)
  | dropTable name ifExists =>
    simp only [draft, bind_eq_ok_iff, pure_eq_ok_iff] at h
    obtain ⟨f, hf, rfl⟩ := h
    exact Draft.holds_ofFragment (clean_namedFragment (by cases ifExists <;> decide) hf)
  | truncate name =>
    simp only [draft, bind_eq_ok_iff, pure_eq_ok_iff] at h
    obtain ⟨f, hf, rfl⟩ := h
    exact Draft.holds_ofFragment (clean_namedFragment (by decide) hf)
  | raw sql params =>
    simp only [draft, bind_eq_ok_iff, pure_eq_ok_iff] at h
    obtain ⟨f, hf, rfl⟩ := h
    exact Draft.holds_ofFragment (holds_rawFragment (hraw sql rfl) hf)

end FluentSql
