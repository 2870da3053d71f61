import FluentSql.Proofs.Growth
import FluentSql.Proofs.Headless
import FluentSql.Proofs.Restart

/-!
# Limits of deletions

SQLite takes no limit in a DELETE, so for that dialect a limit of one is left out, and every other
statement gets its limit.  What counts as a DELETE is told from the kind of the statement and, where
the caller wrote it, from the text of its head; both come to the same as reading the whole text,
with the header of a view, all sections and clauses without a head: a text begins with DELETE
exactly if the statement removes rows.

## Main definitions

* `Text.Begins` — a text begins with a word, after blanks and in any case of letters.
* `Clause.leads`, `StatementKind.leads` — what clauses and statements may begin with.
* `Statement.IsLed` — a statement begins with a text of its kind.

## Main results

* `Builder.isLed_run` — every verb keeps statements beginning with a text of their kind.
* `Statement.isDelete_iff_begins` — a statement removes rows exactly if its text begins with DELETE.
* `Builder.limit_left_out_iff` — **SQLite leaves out the limit of a DELETE and no other.**
-/

namespace FluentSql

/-! ### First words -/

namespace Text

/-- The text begins with a word, which is given in lower case, after blanks and in any case of ASCII
letters. -/
def Begins (word : String) (text : String) : Prop :=
  word.toList <+: fold (trimStart text.toList)

/-- The lead neither begins with the word nor is the beginning of it, so no text that has the lead
in front begins with the word. -/
def RulesOut (word lead : String) : Prop :=
  ¬word.toList <+: fold (trimStart lead.toList) ∧ ¬fold (trimStart lead.toList) <+: word.toList

instance (word text : String) : Decidable (Begins word text) :=
  inferInstanceAs (Decidable (_ <+: _))

instance (word lead : String) : Decidable (RulesOut word lead) :=
  inferInstanceAs (Decidable (¬_ <+: _ ∧ ¬_ <+: _))

variable {word lead : String}

theorem begins_append (hword : word.toList ≠ []) (h : Begins word lead) (rest : String) :
    Begins word (lead ++ rest) := by
  have hne : trimStart lead.toList ≠ [] := by
    intro hnil
    rw [Begins, hnil] at h
    exact hword (List.prefix_nil.mp h)
  rw [Begins, String.toList_append, trimStart_append hne, fold, List.map_append]
  exact h.trans (List.prefix_append _ _)

theorem not_begins_append (h : RulesOut word lead) (rest : String) :
    ¬Begins word (lead ++ rest) := by
  have hne : trimStart lead.toList ≠ [] := by
    intro hnil
    rw [RulesOut, hnil] at h
    exact h.2 List.nil_prefix
  rw [Begins, String.toList_append, trimStart_append hne, fold, List.map_append]
  intro hbegins
  -- the word and the lead are both in front, so one of them is in front of the other
  rcases List.prefix_or_prefix_of_prefix hbegins (List.prefix_append _ _) with hshort | hlong
  · exact h.1 hshort
  · exact h.2 hlong

end Text

/-! ### What statements begin with -/

/-- What the text of a clause may begin with. -/
def Clause.leads : List String :=
  Dialect.generic.joinTypes.map (fun type => " " ++ type.text ++ " JOIN ") ++
    [" WHERE ", " HAVING ", " LIMIT ", " OFFSET ", " ORDER BY ", " GROUP BY "]

/-- What a statement of a kind may begin with.  Without a head it begins with a clause, and text of
the caller may begin with anything. -/
def StatementKind.leads : StatementKind → List String
  | empty => Clause.leads
  | select => ["SELECT "]
  | insert => ["INSERT INTO "]
  | update => ["UPDATE "]
  | delete => ["DELETE FROM "]
  | dropView => ["DROP VIEW "]
  | dropTable => ["DROP TABLE "]
  | truncate => ["TRUNCATE TABLE "]
  | raw => [""]

/-- The text has one of some leads in front. -/
def HasLead (leads : List String) (text : String) : Prop :=
  ∃ lead ∈ leads, ∃ rest, text = lead ++ rest

theorem hasLead_append {leads : List String} {text : String} (h : HasLead leads text)
    (added : String) : HasLead leads (text ++ added) := by
  obtain ⟨lead, hlead, rest, rfl⟩ := h
  exact ⟨lead, hlead, rest ++ added, String.append_assoc⟩

theorem hasLead_singleton (lead rest : String) : HasLead [lead] (lead ++ rest) :=
  ⟨lead, List.mem_singleton.mpr rfl, rest, rfl⟩

/-- The text of a clause begins as one. -/
theorem Clause.hasLead_compile {dialect : Dialect} {c : Clause} {f : Fragment}
    (h : c.compile dialect = .ok f) : HasLead leads f.sql := by
  cases c with
  | join table on request =>
    simp only [compile, ite_error_eq_ok_iff, bind_eq_ok_iff, pure_eq_ok_iff] at h
    obtain ⟨-, type, -, source, -, condition, -, rfl⟩ := h
    refine ⟨" " ++ type.text ++ " JOIN ", ?_, source ++ condition, ?_⟩
    · cases type <;> decide
    · simp only [Fragment.ofSql, String.append_assoc]
  | filter conditions extra =>
    simp only [compile, ite_error_eq_ok_iff, bind_eq_ok_iff, pure_eq_ok_iff] at h
    obtain ⟨-, g, -, rfl⟩ := h
    exact ⟨" WHERE ", by decide, _, String.append_assoc⟩
  | having conditions =>
    simp only [compile, ite_error_eq_ok_iff, bind_eq_ok_iff, pure_eq_ok_iff] at h
    obtain ⟨-, g, -, rfl⟩ := h
    exact ⟨" HAVING ", by decide, _, rfl⟩
  | limit n =>
    cases h
    exact ⟨" LIMIT ", by decide, _, rfl⟩
  | offset n =>
    cases h
    exact ⟨" OFFSET ", by decide, _, rfl⟩
  | orderBy keys =>
    simp only [compile, ite_error_eq_ok_iff, bind_eq_ok_iff, pure_eq_ok_iff] at h
    obtain ⟨-, texts, -, rfl⟩ := h
    exact ⟨" ORDER BY ", by decide, _, rfl⟩
  | groupBy fields =>
    simp only [compile, ite_error_eq_ok_iff, bind_eq_ok_iff, pure_eq_ok_iff] at h
    obtain ⟨-, text, -, rfl⟩ := h
    exact ⟨" GROUP BY ", by decide, _, rfl⟩

/-- A statement of one fragment begins as the fragment does. -/
theorem Draft.hasLead_ofFragment {kind : StatementKind} {f : Fragment} {lead rest : String}
    (hkind : kind.leads = [lead]) (hf : f.sql = lead ++ rest) :
    HasLead (Draft.ofFragment kind f).statement.kind.leads
      (Draft.ofFragment kind f).statement.body := by
  have hbody : (Draft.ofFragment kind f).statement.body = lead ++ rest := by
    rw [ofFragment, Statement.body_of_view_eq_none rfl, Statement.render_ofFragment, hf]
  rw [hbody]
  show HasLead kind.leads _
  rw [hkind]
  exact hasLead_singleton lead rest

/-- Keywords in front of a name stay in front. -/
theorem sql_namedFragment {keywords name argument context : String} {f : Fragment}
    (h : namedFragment keywords name argument context = .ok f) :
    ∃ rest, f.sql = keywords ++ rest := by
  simp only [namedFragment, bind_eq_ok_iff, pure_eq_ok_iff] at h
  obtain ⟨name, -, rfl⟩ := h
  exact ⟨_, rfl⟩

/-- A new statement begins with the keywords of its opening. -/
theorem Opening.hasLead_draft {o : Opening} {d : Draft} (h : o.draft = .ok d) :
    HasLead d.statement.kind.leads d.statement.body := by
  cases o with
  | select selection =>
    simp only [draft, bind_eq_ok_iff, pure_eq_ok_iff] at h
    obtain ⟨⟨sql, projection⟩, hs, rfl⟩ := h
    obtain ⟨⟨rest, rfl⟩, -⟩ := Selection.compile_eq_ok hs
    rw [Statement.body_of_view_eq_none rfl, Statement.render_start]
    exact hasLead_singleton _ _
  | insert table batch =>
    simp only [draft, bind_eq_ok_iff, pure_eq_ok_iff, insertFragment, ite_error_eq_ok_iff] at h
    obtain ⟨f, ⟨-, -, source, -, columns, -, rfl⟩, rfl⟩ := h
    simp only [String.append_assoc]
    exact Draft.hasLead_ofFragment rfl rfl
  | update table assignments =>
    simp only [draft, bind_eq_ok_iff, pure_eq_ok_iff, updateFragment, ite_error_eq_ok_iff] at h
    obtain ⟨f, ⟨-, sets, -, source, -, rfl⟩, rfl⟩ := h
    simp only [String.append_assoc]
    exact Draft.hasLead_ofFragment rfl rfl
  | delete table =>
    simp only [draft, bind_eq_ok_iff, pure_eq_ok_iff, deleteFragment, ite_error_eq_ok_iff] at h
    obtain ⟨f, ⟨-, source, -, rfl⟩, rfl⟩ := h
    exact Draft.hasLead_ofFragment rfl rfl
  | dropView name ifExists =>
    simp only [draft, bind_eq_ok_iff, pure_eq_ok_iff] at h
    obtain ⟨f, hf, rfl⟩ := h
    obtain ⟨rest, hrest⟩ := sql_namedFragment hf
    exact Draft.hasLead_ofFragment rfl (hrest.trans String.append_assoc)
  | dropTable name ifExists =>
    simp only [draft, bind_eq_ok_iff, pure_eq_ok_iff] at h
    obtain ⟨f, hf, rfl⟩ := h
    obtain ⟨rest, hrest⟩ := sql_namedFragment hf
    exact Draft.hasLead_ofFragment rfl (hrest.trans String.append_assoc)
  | truncate name =>
    simp only [draft, bind_eq_ok_iff, pure_eq_ok_iff] at h
    obtain ⟨f, hf, rfl⟩ := h
    obtain ⟨rest, hrest⟩ := sql_namedFragment hf
    exact Draft.hasLead_ofFragment rfl hrest
  | raw sql params =>
    simp only [draft, bind_eq_ok_iff, pure_eq_ok_iff] at h
    obtain ⟨f, -, rfl⟩ := h
    exact Draft.hasLead_ofFragment rfl String.empty_append.symm

/-! ### Statements keep what they begin with -/

/-- A statement begins with a text of its kind, or it has neither a head nor a clause. -/
def Statement.IsLed (s : Statement) : Prop :=
  (s.kind = .empty ∧ s.body = "") ∨ HasLead s.kind.leads s.body

/-- A statement other than a SELECT waits for no section, defines no view and has no second
section. -/
theorem Statement.plain_of_kind {s : Statement} (h : s.IsComposed) (hk : s.kind ≠ .select) :
    s.pending = none ∧ s.view = none ∧ s.sections.length ≤ 1 := by
  refine ⟨?_, ?_, ?_⟩
  · by_contra hp
    exact hk (h.kind (Or.inl (Option.isSome_iff_ne_none.mpr hp)))
  · by_contra hv
    exact hk (h.kind (Or.inr (Or.inl (Option.isSome_iff_ne_none.mpr hv))))
  · by_contra hmore
    exact hk (h.kind (Or.inr (Or.inr (Nat.lt_of_not_le hmore))))

namespace Builder

variable {b : Builder} {v : Verb} {d : Draft}

/-- A change adds at the end, so the statement begins as before; and where there was nothing it is a
clause that is added. -/
theorem isLed_edit (hd : b.draft.IsComposed) (hled : b.statement.IsLed) (ho : b.opens v = false)
    (hv : v.handlesError = false) (h : v.edit b.dialect b.draft = .ok () d) :
    d.statement.IsLed := by
  have hkind : d.statement.kind = b.statement.kind := kind_edit ho hv h
  rcases hled with ⟨hk, hbody⟩ | hlead
  · have hselect : b.statement.kind ≠ .select := by
      rw [hk]
      decide
    obtain ⟨hp, -, -⟩ := Statement.plain_of_kind hd.statement hselect
    obtain ⟨c, f, -, hf, hs⟩ := clause_of_edit hk hp ho hv h
    have hbody' : d.statement.body = f.sql := by
      rw [hs]
      have happ : (b.statement.extend f).body = b.statement.body ++ f.sql :=
        Statement.body_append hp f.sql
      rw [happ, hbody, String.empty_append]
    refine Or.inr ?_
    rw [hkind, hk, hbody']
    exact Clause.hasLead_compile hf
  · obtain ⟨added, hgrows⟩ := Draft.grows_edit ho hv h
    refine Or.inr ?_
    rw [hkind, hgrows.body]
    exact hasLead_append hlead added

/-- **Every verb keeps statements beginning with a text of their kind.** -/
theorem isLed_run (b : Builder) (v : Verb) (hd : b.draft.IsComposed) (hled : b.statement.IsLed) :
    (b.run v).statement.IsLed := by
  have hstep := b.step_run v
  generalize b.run v = b' at hstep ⊢
  cases hstep with
  | opened ho hd => exact Or.inr (Opening.hasLead_draft hd)
  | edited ho hv hb h => exact isLed_edit hd hled ho hv h
  | reset => exact Or.inl ⟨rfl, rfl⟩
  | setError message =>
    rw [setError]
    split <;> exact hled
  | refused ho he => exact hled
  | frozen ho hv he => exact hled
  | failed ho hv hb he => exact hled

/-- So do all actions. -/
theorem isLed_actAll (dialect : Dialect) (options : Options) (as : List Action) :
    ((new dialect options).actAll as).draft.IsComposed ∧
      ((new dialect options).actAll as).statement.IsLed :=
  draft_actAll (P := fun d => d.IsComposed ∧ d.statement.IsLed)
    ⟨Draft.isComposed_empty, Or.inl ⟨rfl, rfl⟩⟩
    (fun b v h => ⟨isComposed_run b v h.1, isLed_run b v h.1 h.2⟩) dialect options as

end Builder

/-! ### Deletions -/

/-- Whatever else a statement begins with, if it is neither a deletion nor text of the caller then
it does not begin with DELETE. -/
theorem StatementKind.rulesOut_of_mem_leads {kind : StatementKind} (hdelete : kind ≠ .delete)
    (hraw : kind ≠ .raw) : ∀ lead ∈ kind.leads, Text.RulesOut "delete" lead := by
  cases kind with
  | delete => exact absurd rfl hdelete
  | raw => exact absurd rfl hraw
  | _ => decide

namespace Statement

variable {s : Statement}

/-- A statement that the caller wrote is its first section. -/
theorem isDelete_of_raw (h : s.IsComposed) (hk : s.kind = .raw) :
    s.isDelete = true ↔ Text.Begins "delete" s.render := by
  obtain ⟨hpending, hview, hlength⟩ := plain_of_kind h (by rw [hk]; decide)
  cases hs : s.sections with
  | nil =>
    have hempty : s.render = "" := by simp [render, hs, hview, hpending]
    rw [isDelete, hk, hs, hempty]
    exact ⟨fun hx => (by cases hx), fun hx => absurd hx (by decide)⟩
  | cons head rest =>
    have hrest : rest = [] := by
      rw [hs, List.length_cons] at hlength
      exact List.length_eq_zero_iff.mp (by omega)
    have hhead : head.operator = none := h.joined.head head (by rw [hs]; rfl)
    have htext : s.render = head.sql := by
      simp [render, hs, hrest, hview, hpending, Section.render, hhead]
    rw [isDelete, hk, hs, htext]
    exact Text.startsWithWord_iff

/-- **A statement removes rows exactly if its text begins with DELETE.** -/
theorem isDelete_iff_begins (h : s.IsComposed) (hled : s.IsLed) :
    s.isDelete = true ↔ Text.Begins "delete" s.render := by
  by_cases hraw : s.kind = .raw
  · exact isDelete_of_raw h hraw
  by_cases hdelete : s.kind = .delete
  · have htrue : s.isDelete = true := by rw [isDelete, hdelete]
    obtain ⟨-, hview, -⟩ := plain_of_kind h (by rw [hdelete]; decide)
    rw [htrue, ← body_of_view_eq_none hview]
    refine ⟨fun _ => ?_, fun _ => rfl⟩
    rcases hled with ⟨hempty, -⟩ | ⟨lead, hlead, rest, hbody⟩
    · rw [hdelete] at hempty
      cases hempty
    · rw [hdelete, StatementKind.leads, List.mem_singleton] at hlead
      rw [hbody, hlead]
      exact Text.begins_append (by decide) (by decide) rest
  · have hfalse : s.isDelete = false := by
      rw [isDelete]
      cases hk : s.kind with
      | delete => exact absurd hk hdelete
      | raw => exact absurd hk hraw
      | _ => rfl
    rw [hfalse]
    refine ⟨fun hx => (by cases hx), fun hbegins => ?_⟩
    exfalso
    -- the header of a view comes first, if there is one, and then the sections
    cases hv : s.view with
    | some view =>
      have htext : s.render = "CREATE VIEW " ++ ((if view.ifNotExists then "IF NOT EXISTS " else "")
          ++ quoteIdentifier view.name ++ " AS " ++ s.body) := by
        rw [render_eq, header, hv]
        simp [ViewHeader.render, String.append_assoc]
      rw [htext] at hbegins
      exact Text.not_begins_append (by decide) _ hbegins
    | none =>
      rw [← body_of_view_eq_none hv] at hbegins
      rcases hled with ⟨-, hbody⟩ | ⟨lead, hlead, rest, hbody⟩
      · rw [hbody] at hbegins
        exact absurd hbegins (by decide)
      · rw [hbody] at hbegins
        exact Text.not_begins_append (s.kind.rulesOut_of_mem_leads hdelete hraw lead hlead) rest
          hbegins

end Statement

/-! ### Limits -/

namespace Builder

variable {b : Builder}

/-- What a limit does where there is no error and no set operator waits. -/
theorem run_limit (he : b.error = none) (hp : b.statement.pending = none) (n : Nat) :
    b.run (.limit n) =
      if b.statement.isDelete && !b.dialect.allowsDeleteLimit then b
      else
        { b with draft :=
            ⟨b.statement.extend (.ofSql (" LIMIT " ++ naturalText n)), b.draft.projection⟩ } := by
  have hwait : b.draft.needsSection = false :=
    Bool.of_not_eq_true (Draft.needsSection_eq_false_iff.mpr hp)
  cases hskip : b.statement.isDelete && !b.dialect.allowsDeleteLimit with
  | true =>
    have hd : Draft.addClause b.dialect (.limit n) b.draft = .ok () b.draft := by
      have hskip' : (Clause.limit n).isSkipped b.dialect b.draft.statement = true := hskip
      simp [Draft.addClause, hwait, hskip']
    exact extend_of_ok he hd
  | false =>
    have hskip' : (Clause.limit n).isSkipped b.dialect b.draft.statement = false := hskip
    exact extend_of_ok he (Draft.addClause_of_compile hwait hskip' rfl)

/-- **SQLite leaves out the limit of a DELETE and no other.**  After any verbs and terminal verbs,
where there is no error and no set operator waits, a limit changes nothing at all exactly if the
text of the statement begins with DELETE, after blanks and in any case of letters; and if it does
not then the limit stands at the end of the text, and there is neither a new parameter nor an error.
-/
theorem limit_left_out_iff {options : Options} {as : List Action}
    (hb : (new .sqlite options).actAll as = b) (he : b.error = none)
    (hp : b.statement.pending = none) (n : Nat) :
    (b.run (.limit n) = b ↔ Text.Begins "delete" b.text) ∧
      (¬Text.Begins "delete" b.text →
        (b.run (.limit n)).text = b.text ++ (" LIMIT " ++ naturalText n) ∧
          (b.run (.limit n)).params = b.params ∧ (b.run (.limit n)).error = none) := by
  obtain ⟨hcomposed, hled⟩ := isLed_actAll .sqlite options as
  have hdialect : b.dialect = .sqlite := by
    have hsettings := settings_actAll (new .sqlite options) as
    rw [hb] at hsettings
    exact congrArg Prod.fst hsettings
  rw [hb] at hcomposed hled
  have hdelete : b.statement.isDelete = true ↔ Text.Begins "delete" b.text :=
    Statement.isDelete_iff_begins hcomposed.statement hled
  have hrun := run_limit he hp n
  rw [hdialect] at hrun
  by_cases hbegins : Text.Begins "delete" b.text
  · rw [hdelete.mpr hbegins] at hrun
    exact ⟨⟨fun _ => hbegins, fun _ => hrun⟩, fun hnot => absurd hbegins hnot⟩
  · have hkeep : b.statement.isDelete = false := by
      rw [← Bool.not_eq_true, hdelete]
      exact hbegins
    rw [hkeep] at hrun
    have htext : (b.run (.limit n)).text = b.text ++ (" LIMIT " ++ naturalText n) := by
      rw [hrun]
      exact Statement.render_append hp _
    refine ⟨⟨fun hsame => ?_, fun hx => absurd hx hbegins⟩, fun _ => ⟨htext, ?_, ?_⟩⟩
    · -- the text has become longer
      rw [hsame] at htext
      have hlength := congrArg String.length htext
      simp at hlength
    · rw [hrun]
      exact (Statement.params_extend _ _).trans (List.append_nil _)
    · rw [hrun]
      exact he

/-- A text of the caller in mixed case, and one that is shorter than the word and begins with a
character of several bytes. -/
def writtenDelete : List Action :=
  [.verb (.start (.raw "é" [])), .verb (.start (.raw " deLEte FROM t WHERE id = ?" [.int32 1]))]

/-- The first gets its limit, and the second does not. -/
theorem limit_left_out_iff_writtenDelete :
    (((new .sqlite .default).actAll (writtenDelete.take 1)).run (.limit 3)).text = "é LIMIT 3" ∧
      ((new .sqlite .default).actAll writtenDelete).text = "deLEte FROM t WHERE id = ?" ∧
      ((new .sqlite .default).actAll writtenDelete).run (.limit 3) =
        (new .sqlite .default).actAll writtenDelete := by
  have hshort : (new .sqlite .default).actAll (writtenDelete.take 1) = _ := rfl
  have hboth : (new .sqlite .default).actAll writtenDelete = _ := rfl
  refine ⟨?_, by decide +kernel, ?_⟩
  · have htext := ((limit_left_out_iff hshort rfl rfl 3).2 (by decide +kernel)).1
    exact htext.trans (by decide +kernel)
  · exact (limit_left_out_iff hboth (by decide +kernel) (by decide +kernel) 3).1.mpr
      (by decide +kernel)

end Builder

end FluentSql
