import FluentSql.Proofs.Replacement

/-!
# Calls

What a caller writes.  Most verbs are called with what they carry; conditions may be given in
several ways, and their form is decided while the call is made: a field and an operand without
operator are a comparison, or a test for null if the operand is a text that asks for one.  This is
the one place where a value is looked at.

## Main definitions

* `Criterion`, `Criteria` — conditions as a caller asks for them.
* `Call`, `Call.toVerb`, `Builder.callAll` — calls, and what they do.
* `Call.values`, `Call.mapValues` — the values in a call, and others in their places.
* `Call.asksForNull` — whether a value of the call is read as a test for null.

## Main results

* `Call.toVerb_hidden` — calls that ask for no null make verbs that do not depend on their values.
* `Call.values_toVerb` — a call that succeeds makes a verb that carries the values of the call.
-/

namespace FluentSql

/-! ### Conditions as a caller asks for them -/

/-- A condition as a caller asks for it. -/
inductive Criterion where
  /-- A field and an operand without operator. -/
  | pair (field : Field) (operand : Operand)
  /-- An operator given by its token. -/
  | token (field : Field) (token : String) (operand : Operand)
  | comparison (field : Field) (operator : Comparison) (operand : Operand)
  | made (c : Condition)

namespace Criterion

/-- The condition, or why there is none. -/
def condition : Criterion → Except Error Condition
  | pair field operand => Condition.shorthand field operand
  | token field word operand => Condition.ofToken field word operand
  | comparison field operator operand => Condition.ofComparison field operator operand
  | made c => .ok c

def values : Criterion → List Value
  | pair _ operand | token _ _ operand | comparison _ _ operand => operand.values
  | made c => c.values

def mapValues (f : Value → Value) : Criterion → Criterion
  | pair field operand => pair field (operand.mapValues f)
  | token field word operand => token field word (operand.mapValues f)
  | comparison field operator operand => comparison field operator (operand.mapValues f)
  | made c => made (c.mapValues f)

/-- Whether the operand is a text that is read as a test for null. -/
def asksForNull : Criterion → Bool
  | pair _ (.value (.text s)) => (Condition.nullTest? s).isSome
  | _ => false

end Criterion

/-- One link of a chain of conditions. -/
inductive CriteriaLink where
  /-- A condition with nothing before it. -/
  | push (c : Criterion)
  /-- A condition after a connective. -/
  | join (word : Connective) (c : Criterion)
  /-- A connective given by its token. -/
  | token (token : String)

namespace CriteriaLink

/-- The condition of a link. -/
def criterion? : CriteriaLink → Option Criterion
  | push c | join _ c => some c
  | token _ => none

/-- The link of a filter. -/
def toLink : CriteriaLink → Filter.Link
  | push c => .push c.condition
  | join word c => .join word c.condition
  | token t => .token t

def values (l : CriteriaLink) : List Value := l.criterion?.elim [] Criterion.values

def mapValues (f : Value → Value) : CriteriaLink → CriteriaLink
  | push c => push (c.mapValues f)
  | join word c => join word (c.mapValues f)
  | token t => token t

/-- Whether a value of the link is read as a test for null. -/
def asksForNull (l : CriteriaLink) : Bool := l.criterion?.any Criterion.asksForNull

end CriteriaLink

/-- Conditions in one of the forms in which they may be given. -/
inductive Criteria where
  /-- Text; a blank one is no condition. -/
  | text (sql : String)
  /-- Text, blank or not. -/
  | raw (sql : String)
  | one (c : Criterion)
  | all (cs : List Condition)
  | chain (links : List CriteriaLink)

namespace Criteria

/-- The filter of the conditions. -/
def filter : Criteria → Filter
  | text sql => .ofText sql
  | raw sql => .raw sql
  | one c => .ofCondition c.condition
  | all cs => .ofConditions cs
  | chain links => .ofLinks (links.map CriteriaLink.toLink)

def values : Criteria → List Value
  | text _ | raw _ => []
  | one c => c.values
  | all cs => cs.flatMap Condition.values
  | chain links => links.flatMap CriteriaLink.values

def mapValues (f : Value → Value) : Criteria → Criteria
  | text sql => text sql
  | raw sql => raw sql
  | one c => one (c.mapValues f)
  | all cs => all (cs.map (Condition.mapValues f))
  | chain links => chain (links.map (CriteriaLink.mapValues f))

/-- Whether a value of the conditions is read as a test for null. -/
def asksForNull : Criteria → Bool
  | one c => c.asksForNull
  | chain links => links.any CriteriaLink.asksForNull
  | _ => false

end Criteria

/-- A call of a verb. -/
inductive Call where
  | verb (v : Verb)
  /-- Conditions on the rows, and text of the caller after them. -/
  | filter (criteria : Criteria) (extra : String)
  | having (criteria : Criteria)

namespace Call

/-- The verb that is called. -/
def toVerb : Call → Verb
  | verb v => v
  | filter criteria extra => .clause (.filter criteria.filter extra)
  | having criteria => .clause (.having criteria.filter)

def values : Call → List Value
  | verb v => v.values
  | filter criteria _ | having criteria => criteria.values

def mapValues (f : Value → Value) : Call → Call
  | verb v => verb (v.mapValues f)
  | filter criteria extra => filter (criteria.mapValues f) extra
  | having criteria => having (criteria.mapValues f)

/-- Whether a value of the call is read as a test for null. -/
def asksForNull : Call → Bool
  | verb _ => false
  | filter criteria _ | having criteria => criteria.asksForNull

end Call

/-- The builder after several calls. -/
def Builder.callAll (b : Builder) (cs : List Call) : Builder := b.runAll (cs.map Call.toVerb)

/-! ### Filters commute with the replacement -/

namespace Filter

variable (f : Value → Value)

theorem addNode_mapValues (c : Filter) (n : Node) :
    (c.mapValues f).addNode (n.mapValues f) = (c.addNode n).mapValues f := by
  simp [addNode, mapValues]

theorem push_mapValues (c : Filter) (r : Except Error Condition) :
    (c.mapValues f).push (r.map (Condition.mapValues f)) = (c.push r).mapValues f := by
  cases r with
  | ok k => exact addNode_mapValues f c (.condition k)
  | error e => rfl

theorem join_mapValues (c : Filter) (word : Connective) (r : Except Error Condition) :
    (c.mapValues f).join word (r.map (Condition.mapValues f)) =
      (c.join word r).mapValues f := by
  have hword : (c.mapValues f).addNode (.connective word) =
      (c.addNode (.connective word)).mapValues f := addNode_mapValues f c (.connective word)
  rw [join, join, hword, push_mapValues]

theorem pushToken_mapValues (c : Filter) (token : String) :
    (c.mapValues f).pushToken token = (c.pushToken token).mapValues f := by
  rw [pushToken, pushToken]
  cases Connective.parse token with
  | ok word => exact addNode_mapValues f c (.connective word)
  | error e => rfl

theorem ofConditions_mapValues (cs : List Condition) :
    ofConditions (cs.map (Condition.mapValues f)) = (ofConditions cs).mapValues f := by
  cases cs with
  | nil => rfl
  | cons c cs =>
    have hfold : ∀ start : Filter,
        (cs.map (Condition.mapValues f)).foldl (fun f c => f.join .and (.ok c))
          (start.mapValues f) = (cs.foldl (fun f c => f.join .and (.ok c)) start).mapValues f := by
      intro start
      induction cs generalizing start with
      | nil => rfl
      | cons c cs ih =>
        rw [List.map_cons, List.foldl_cons, List.foldl_cons, ← ih, ← join_mapValues]
        rfl
    exact hfold (ofCondition (.ok c))

end Filter

theorem Condition.ofComparison_mapValues (f : Value → Value) (field : Field)
    (operator : Comparison) (operand : Operand) :
    ofComparison field operator (operand.mapValues f) =
      (ofComparison field operator operand).map (Condition.mapValues f) := by
  cases operand with
  | list vs =>
    rw [Operand.mapValues, ofComparison, ofComparison, List.isEmpty_map]
    split
    · rfl
    · split <;> rfl
  | _ => rfl

/-! ### Calls that ask for no null -/

/-- The operator of a comparison that is given without one. -/
def Operand.implied : Operand → Comparison
  | list _ => .member
  | _ => .equal

/-- A pair that asks for no null is a comparison. -/
theorem Criterion.condition_pair {field : Field} {operand : Operand}
    (h : (pair field operand).asksForNull = false) :
    (pair field operand).condition = Condition.ofComparison field operand.implied operand := by
  cases operand with
  | value v =>
    cases v with
    | text s =>
      rw [asksForNull, Option.isSome_eq_false_iff, Option.isNone_iff_eq_none] at h
      rw [condition, Condition.shorthand, h]
      rfl
    | _ => rfl
  | _ => rfl

/-- Every value hidden. -/
def hide (_ : Value) : Value := .null

theorem Criterion.condition_hidden {c : Criterion} (h : c.asksForNull = false) :
    (c.mapValues hide).condition = c.condition.map (Condition.mapValues hide) := by
  cases c with
  | made c => rfl
  | comparison field operator operand => exact Condition.ofComparison_mapValues hide _ _ _
  | token field word operand =>
    rw [mapValues, condition, condition, Condition.ofToken, Condition.ofToken]
    cases Comparison.parse word with
    | error e => rfl
    | ok operator => exact Condition.ofComparison_mapValues hide _ _ _
  | pair field operand =>
    have hhidden : (pair field (operand.mapValues hide)).asksForNull = false := by
      cases operand <;> rfl
    have himplied : (operand.mapValues hide).implied = operand.implied := by
      cases operand <;> rfl
    rw [mapValues, condition_pair h, condition_pair hhidden, himplied]
    exact Condition.ofComparison_mapValues hide _ _ _

theorem CriteriaLink.add_hidden {l : CriteriaLink} (h : l.asksForNull = false) (c : Filter) :
    (c.mapValues hide).add (l.mapValues hide).toLink = (c.add l.toLink).mapValues hide := by
  cases l with
  | push k =>
    have hk : (k.mapValues hide).condition = k.condition.map (Condition.mapValues hide) :=
      Criterion.condition_hidden h
    rw [mapValues, toLink, toLink, Filter.add, Filter.add, hk, Filter.push_mapValues]
  | join word k =>
    have hk : (k.mapValues hide).condition = k.condition.map (Condition.mapValues hide) :=
      Criterion.condition_hidden h
    rw [mapValues, toLink, toLink, Filter.add, Filter.add, hk, Filter.join_mapValues]
  | token t => exact Filter.pushToken_mapValues hide c t

theorem Criteria.filter_hidden {c : Criteria} (h : c.asksForNull = false) :
    (c.mapValues hide).filter = c.filter.mapValues hide := by
  cases c with
  | raw sql => rfl
  | text sql =>
    rw [mapValues, filter, Filter.ofText]
    split <;> rfl
  | all cs => exact Filter.ofConditions_mapValues hide cs
  | one c =>
    rw [mapValues, filter, filter, Criterion.condition_hidden h]
    exact Filter.push_mapValues hide .empty c.condition
  | chain links =>
    have hfold : ∀ start : Filter,
        ((links.map (CriteriaLink.mapValues hide)).map CriteriaLink.toLink).foldl Filter.add
          (start.mapValues hide) =
        ((links.map CriteriaLink.toLink).foldl Filter.add start).mapValues hide := by
      rw [asksForNull] at h
      induction links with
      | nil => exact fun _ => rfl
      | cons l links ih =>
        intro start
        rw [List.any_cons, Bool.or_eq_false_iff] at h
        rw [List.map_cons, List.map_cons, List.foldl_cons, List.map_cons, List.foldl_cons,
          CriteriaLink.add_hidden h.1, ih h.2]
    exact hfold .empty

/-- **A call that asks for no null makes a verb that does not depend on its values.** -/
theorem Call.toVerb_hidden {c : Call} (h : c.asksForNull = false) :
    (c.mapValues hide).toVerb = c.toVerb.mapValues hide := by
  cases c with
  | verb v => rfl
  | filter criteria extra =>
    rw [mapValues, toVerb, toVerb, Criteria.filter_hidden h]
    rfl
  | having criteria =>
    rw [mapValues, toVerb, toVerb, Criteria.filter_hidden h]
    rfl

/-! ### Calls that succeed -/

theorem Condition.values_ofComparison {field : Field} {operator : Comparison} {operand : Operand}
    {k : Condition} (h : ofComparison field operator operand = .ok k) :
    k.values = operand.values := by
  cases operand with
  | list vs =>
    simp only [ofComparison, ite_error_eq_ok_iff] at h
    cases h.2.2
    rfl
  | _ =>
    cases h
    rfl

theorem Criterion.values_condition {c : Criterion} {k : Condition} (hn : c.asksForNull = false)
    (h : c.condition = .ok k) : k.values = c.values := by
  cases c with
  | made c =>
    cases h
    rfl
  | comparison field operator operand => exact Condition.values_ofComparison h
  | token field word operand =>
    simp only [condition, Condition.ofToken, bind_eq_ok_iff] at h
    obtain ⟨operator, -, h⟩ := h
    exact Condition.values_ofComparison h
  | pair field operand =>
    rw [condition_pair hn] at h
    exact Condition.values_ofComparison h

namespace Filter

variable {c : Filter} {r : Except Error Condition}

theorem values_addNode (n : Node) : (c.addNode n).values = c.values ++ n.values := by
  rw [values, addNode, List.flatMap_append, List.flatMap_singleton]
  rfl

/-- A filter without error had none before, and the condition that was added could be made. -/
theorem values_push (h : (c.push r).error = none) :
    c.error = none ∧ ∃ k, r = .ok k ∧ (c.push r).values = c.values ++ k.values := by
  cases r with
  | ok k => exact ⟨h, k, rfl, values_addNode (.condition k)⟩
  | error e =>
    -- an error that is recorded stays
    have hrecord : c.error.or (some e) = none := h
    rw [Option.or_eq_none_iff] at hrecord
    cases hrecord.2

theorem values_join {word : Connective} (h : (c.join word r).error = none) :
    c.error = none ∧ ∃ k, r = .ok k ∧ (c.join word r).values = c.values ++ k.values := by
  obtain ⟨he, k, hk, hvalues⟩ := values_push h
  refine ⟨he, k, hk, ?_⟩
  rw [join, hvalues, values_addNode]
  exact congrArg (· ++ k.values) (List.append_nil c.values)

theorem values_pushToken {token : String} (h : (c.pushToken token).error = none) :
    c.error = none ∧ (c.pushToken token).values = c.values := by
  rw [pushToken] at h ⊢
  cases hp : Connective.parse token with
  | ok word =>
    rw [hp] at h
    exact ⟨h, (values_addNode (.connective word)).trans (List.append_nil c.values)⟩
  | error e =>
    rw [hp] at h
    have hrecord : c.error.or (some e) = none := h
    rw [Option.or_eq_none_iff] at hrecord
    cases hrecord.2

theorem values_foldl_join (cs : List Condition) (start : Filter) :
    (cs.foldl (fun f c => f.join .and (.ok c)) start).values =
      start.values ++ cs.flatMap Condition.values := by
  have hjoin : ∀ (c : Filter) (k : Condition),
      (c.join .and (.ok k)).values = c.values ++ k.values := by
    intro c k
    rw [join, push, values_addNode, values_addNode]
    exact congrArg (· ++ k.values) (List.append_nil c.values)
  induction cs generalizing start with
  | nil => exact (List.append_nil _).symm
  | cons k cs ih => rw [List.foldl_cons, ih, hjoin, List.flatMap_cons, List.append_assoc]

theorem values_ofConditions (cs : List Condition) :
    (ofConditions cs).values = cs.flatMap Condition.values := by
  cases cs with
  | nil => rfl
  | cons k cs =>
    have hfirst : (ofCondition (.ok k)).values = k.values :=
      (values_addNode (c := .empty) (.condition k)).trans (List.nil_append _)
    rw [ofConditions, values_foldl_join, hfirst, List.flatMap_cons]

end Filter

theorem CriteriaLink.values_add {l : CriteriaLink} {c : Filter} (hn : l.asksForNull = false)
    (h : (c.add l.toLink).error = none) :
    c.error = none ∧ (c.add l.toLink).values = c.values ++ l.values := by
  cases l with
  | push k =>
    obtain ⟨he, k', hk, hvalues⟩ := Filter.values_push h
    exact ⟨he, hvalues.trans (by rw [Criterion.values_condition hn hk]; rfl)⟩
  | join word k =>
    obtain ⟨he, k', hk, hvalues⟩ := Filter.values_join h
    exact ⟨he, hvalues.trans (by rw [Criterion.values_condition hn hk]; rfl)⟩
  | token t =>
    obtain ⟨he, hvalues⟩ := Filter.values_pushToken h
    exact ⟨he, hvalues.trans (List.append_nil _).symm⟩

/-- A chain without error added the values of all its links. -/
theorem CriteriaLink.values_foldl {links : List CriteriaLink} {c : Filter}
    (hn : links.any asksForNull = false)
    (h : ((links.map toLink).foldl Filter.add c).error = none) :
    c.error = none ∧
      ((links.map toLink).foldl Filter.add c).values = c.values ++ links.flatMap values := by
  induction links generalizing c with
  | nil => exact ⟨h, (List.append_nil _).symm⟩
  | cons l links ih =>
    rw [List.any_cons, Bool.or_eq_false_iff] at hn
    rw [List.map_cons, List.foldl_cons] at h ⊢
    obtain ⟨he, hvalues⟩ := ih hn.2 h
    obtain ⟨hc, hfirst⟩ := values_add hn.1 he
    refine ⟨hc, ?_⟩
    rw [hvalues, hfirst, List.flatMap_cons, List.append_assoc]

/-- Conditions that could be made have the values that were given with them. -/
theorem Criteria.values_filter {c : Criteria} (hn : c.asksForNull = false)
    (h : c.filter.error = none) : c.filter.values = c.values := by
  cases c with
  | raw sql => rfl
  | text sql =>
    rw [filter, Filter.ofText]
    split <;> rfl
  | all cs => exact Filter.values_ofConditions cs
  | one k =>
    obtain ⟨-, k', hk, hvalues⟩ := Filter.values_push h
    rw [filter, Filter.ofCondition, hvalues, Criterion.values_condition hn hk]
    rfl
  | chain links => exact (CriteriaLink.values_foldl hn h).2

/-- A clause that was added without error compiles, unless it is left out. -/
theorem Builder.compile_of_run {b : Builder} {c : Clause} (h : (b.run (.clause c)).error = none) :
    c.isSkipped b.dialect b.statement = true ∨ ∃ f, c.compile b.dialect = .ok f := by
  have hstep := b.step_run (.clause c)
  generalize b.run (.clause c) = b' at hstep h
  cases hstep with
  | frozen ho hv he =>
    rw [he] at h
    cases h
  | failed ho hv hb he => cases h
  | edited ho hv hb hd =>
    obtain ⟨-, ⟨hskip, -⟩ | ⟨f, hf, -⟩⟩ := Draft.addClause_eq_ok hd
    · exact Or.inl hskip
    · exact Or.inr ⟨f, hf⟩

/-- **A call that succeeds makes a verb that carries the values of the call.** -/
theorem Call.values_toVerb {b : Builder} {c : Call} (hn : c.asksForNull = false)
    (h : (b.run c.toVerb).error = none) : c.toVerb.values = c.values := by
  cases c with
  | verb v => rfl
  | filter criteria extra =>
    rcases Builder.compile_of_run h with hskip | ⟨f, hf⟩
    · cases hskip
    · simp only [Clause.compile, ite_error_eq_ok_iff, bind_eq_ok_iff] at hf
      obtain ⟨-, g, hg, -⟩ := hf
      exact Criteria.values_filter hn (Filter.compile_eq_ok hg).1
  | having criteria =>
    rcases Builder.compile_of_run h with hskip | ⟨f, hf⟩
    · cases hskip
    · simp only [Clause.compile, ite_error_eq_ok_iff, bind_eq_ok_iff] at hf
      obtain ⟨-, g, hg, -⟩ := hf
      exact Criteria.values_filter hn (Filter.compile_eq_ok hg).1

end FluentSql
