import FluentSql.Filter
import FluentSql.Proofs.Gate
import FluentSql.Proofs.Keywords

/-!
# Chains of conditions

A filter is put together link by link: conditions with or without a connective in front of them,
and connectives alone.  Its SQL is that of the links side by side, with all their values.  There
are two ways to fail, and the one that comes first in the chain does not always win: a link that
could not be made counts before every condition that cannot be compiled.

## Main definitions

* `Connective.spaced` — a connective between two conditions.
* `Filter.Link.failure`, `Filter.Link.pieces` — why a link could not be made, and what it adds.
* `Fragment.concat` — pieces side by side.
* `Filter.CompilesTo` — what a chain of links compiles to.
* `Filter.conjunction` — the chain in which all conditions have to hold.

## Main results

* `Filter.error_foldl`, `Filter.compiled_foldl` — what a chain leaves in a filter.
* `Filter.compilesTo_compile` — a chain compiles to its links side by side.
* `Filter.links_compile_in_order` — **how chains of conditions compile.**
-/

namespace FluentSql

/-- A connective between two conditions. -/
def Connective.spaced : Connective → String
  | and => " AND "
  | or => " OR "
  | not => " NOT "

namespace Fragment

/-- Pieces side by side: their texts, and the values of all of them. -/
def concat (fs : List Fragment) : Fragment := ⟨String.join (fs.map sql), fs.flatMap params⟩

theorem concat_cons (f : Fragment) (fs : List Fragment) : concat (f :: fs) = f ++ concat fs := by
  show Fragment.mk _ _ = Fragment.mk _ _
  rw [List.map_cons, String.join_cons, List.flatMap_cons]
  rfl

theorem concat_append (fs gs : List Fragment) : concat (fs ++ gs) = concat fs ++ concat gs := by
  show Fragment.mk _ _ = Fragment.mk _ _
  rw [List.map_append, String.join_append, List.flatMap_append]
  rfl

end Fragment

/-- Results without an error among them are values. -/
theorem exists_map_ok_of_findSome? {α : Type} {rs : List (Except Error α)}
    (h : rs.findSome? errorOf = none) : ∃ values : List α, rs = values.map Except.ok := by
  induction rs with
  | nil => exact ⟨[], rfl⟩
  | cons r rs ih =>
    rw [List.findSome?_cons] at h
    cases r with
    | error e => cases h
    | ok a =>
      obtain ⟨values, rfl⟩ := ih h
      exact ⟨a :: values, rfl⟩

namespace Filter

/-! ### Links -/

namespace Link

/-- Why a link could not be made: its condition could not, or its token says no connective. -/
def failure : Link → Option Error
  | push c | join _ c => errorOf c
  | token text =>
    match Connective.said? text with
    | some _ => none
    | none => some (.unknownOperator text)

/-- The SQL of a condition, if there is one. -/
def compiled : Except Error Condition → List (Except Error Fragment)
  | .ok c => [c.compile]
  | .error _ => []

/-- The text of a connective. -/
def word (c : Connective) : Except Error Fragment := .ok (.ofSql c.spaced)

/-- What a link adds, in order: a connective adds a text, a condition what it compiles to. -/
def pieces : Link → List (Except Error Fragment)
  | push c => compiled c
  | join connective c => word connective :: compiled c
  | token text => (Connective.said? text).toList.map word

/-- A link that could be made adds something. -/
theorem pieces_ne_nil {l : Link} (h : l.failure = none) : l.pieces ≠ [] := by
  cases l with
  | push c =>
    cases c with
    | ok c => exact List.cons_ne_nil _ _
    | error e => cases h
  | join connective c => exact List.cons_ne_nil _ _
  | token text =>
    rw [failure] at h
    rw [pieces]
    cases hc : Connective.said? text with
    | some c => exact List.cons_ne_nil _ _
    | none =>
      rw [hc] at h
      cases h

end Link

/-! ### What a chain leaves in a filter -/

theorem compile_connective (c : Connective) :
    (Node.connective c).compile = .ok (.ofSql c.spaced) := by
  have htext : " " ++ c.text ++ " " = c.spaced := by cases c <;> decide
  rw [Node.compile, htext]

/-- What the parts of a filter compile to, in order. -/
def compiled (f : Filter) : List (Except Error Fragment) := f.nodes.map Node.compile

theorem compiled_addNode (f : Filter) (n : Node) :
    (f.addNode n).compiled = f.compiled ++ [n.compile] := by
  rw [compiled, addNode, List.map_append, List.map_singleton, compiled]

theorem error_push (f : Filter) (c : Except Error Condition) :
    (f.push c).error = f.error.or (errorOf c) := by
  cases c with
  | ok c => exact Option.or_none.symm
  | error e => rfl

theorem compiled_push (f : Filter) (c : Except Error Condition) :
    (f.push c).compiled = f.compiled ++ Link.compiled c := by
  cases c with
  | ok c => exact compiled_addNode f _
  | error e => exact (List.append_nil _).symm

/-- A link leaves its error, unless there is one already. -/
theorem error_add (f : Filter) (l : Link) : (f.add l).error = f.error.or l.failure := by
  cases l with
  | push c => exact error_push f c
  | join connective c => exact error_push (f.addNode (.connective connective)) c
  | token text =>
    rw [add, pushToken, Connective.parse_eq, Link.failure]
    cases Connective.said? text with
    | some c => exact Option.or_none.symm
    | none => rfl

/-- A link adds its pieces at the end, whether it could be made or not. -/
theorem compiled_add (f : Filter) (l : Link) : (f.add l).compiled = f.compiled ++ l.pieces := by
  cases l with
  | push c => exact compiled_push f c
  | join connective c =>
    rw [add, join, compiled_push, compiled_addNode, compile_connective, List.append_assoc]
    rfl
  | token text =>
    rw [add, pushToken, Connective.parse_eq, Link.pieces]
    cases Connective.said? text with
    | some c =>
      show (f.addNode (.connective c)).compiled = _
      rw [compiled_addNode, compile_connective]
      rfl
    | none => exact (List.append_nil _).symm

/-- A chain leaves the first error of its links. -/
theorem error_foldl (links : List Link) (f : Filter) :
    (links.foldl add f).error = f.error.or (links.findSome? Link.failure) := by
  induction links generalizing f with
  | nil => exact Option.or_none.symm
  | cons l links ih =>
    rw [List.foldl_cons, ih, error_add, Option.or_assoc, List.findSome?_cons]
    cases l.failure <;> rfl

/-- A chain adds the pieces of all its links. -/
theorem compiled_foldl (links : List Link) (f : Filter) :
    (links.foldl add f).compiled = f.compiled ++ links.flatMap Link.pieces := by
  induction links generalizing f with
  | nil => exact (List.append_nil _).symm
  | cons l links ih =>
    rw [List.foldl_cons, ih, compiled_add, List.flatMap_cons, List.append_assoc]

theorem error_ofLinks (links : List Link) :
    (ofLinks links).error = links.findSome? Link.failure := by
  rw [ofLinks, error_foldl]
  rfl

theorem compiled_ofLinks (links : List Link) :
    (ofLinks links).compiled = links.flatMap Link.pieces := by
  rw [ofLinks, compiled_foldl]
  rfl

/-! ### Compiling a chain -/

/-- Parts of which one cannot be compiled give the first error. -/
theorem compileNodes_of_error {ns : List Node} {e : Error}
    (h : (ns.map Node.compile).findSome? errorOf = some e) : compileNodes ns = .error e := by
  induction ns with
  | nil => cases h
  | cons n ns ih =>
    rw [List.map_cons, List.findSome?_cons] at h
    rw [compileNodes]
    cases hn : n.compile with
    | error e' =>
      rw [hn] at h
      cases h
      rfl
    | ok f =>
      rw [hn] at h
      rw [ih h]
      rfl

/-- Parts that can be compiled give their pieces side by side. -/
theorem compileNodes_of_ok {ns : List Node} {fs : List Fragment}
    (h : ns.map Node.compile = fs.map Except.ok) : compileNodes ns = .ok (.concat fs) := by
  induction ns generalizing fs with
  | nil =>
    rw [List.map_nil, eq_comm, List.map_eq_nil_iff] at h
    rw [h]
    rfl
  | cons n ns ih =>
    cases fs with
    | nil => cases h
    | cons f fs =>
      obtain ⟨hn, hns⟩ := List.cons.inj h
      rw [compileNodes, hn, ih hns, Fragment.concat_cons]
      rfl

/-- What a chain of links compiles to: the first error of a link that could not be made; otherwise
the first error of a piece that cannot be compiled; otherwise all pieces side by side. -/
structure CompilesTo (links : List Link) (r : Except Error Fragment) : Prop where
  unmade : ∀ e, links.findSome? Link.failure = some e → r = .error e
  empty : links = [] → r = .error (.emptyInput "where" Condition.context)
  refused : links ≠ [] → links.findSome? Link.failure = none →
    ∀ e, (links.flatMap Link.pieces).findSome? errorOf = some e → r = .error e
  joined : links ≠ [] → links.findSome? Link.failure = none →
    (links.flatMap Link.pieces).findSome? errorOf = none →
      ∃ fs, links.flatMap Link.pieces = fs.map Except.ok ∧ r = .ok (.concat fs)

theorem compile_ofLinks_of_made {links : List Link} (hne : links ≠ [])
    (h : links.findSome? Link.failure = none) :
    (ofLinks links).compile = compileNodes (ofLinks links).nodes := by
  have hnodes : (ofLinks links).nodes.isEmpty = false := by
    obtain ⟨l, rest, rfl⟩ := List.exists_cons_of_ne_nil hne
    have hl : l.failure = none := List.findSome?_eq_none_iff.mp h l List.mem_cons_self
    have hcompiled : (ofLinks (l :: rest)).compiled ≠ [] := by
      rw [compiled_ofLinks, List.flatMap_cons]
      exact List.append_ne_nil_of_left_ne_nil (Link.pieces_ne_nil hl) _
    rw [List.isEmpty_eq_false_iff]
    exact fun hnil => hcompiled (by rw [compiled, hnil, List.map_nil])
  rw [compile, error_ofLinks, h]
  simp only [hnodes, Bool.false_eq_true, if_false]

/-- **A chain compiles to its links side by side.** -/
theorem compilesTo_compile (links : List Link) : CompilesTo links (ofLinks links).compile := by
  have hpieces := compiled_ofLinks links
  constructor
  · intro e he
    rw [compile, error_ofLinks, he]
  · rintro rfl
    rfl
  · intro hne hmade e he
    rw [compile_ofLinks_of_made hne hmade]
    rw [← hpieces] at he
    exact compileNodes_of_error he
  · intro hne hmade hok
    obtain ⟨fs, hfs⟩ := exists_map_ok_of_findSome? hok
    rw [compile_ofLinks_of_made hne hmade]
    rw [← hpieces] at hfs
    exact ⟨fs, hpieces.symm.trans hfs, compileNodes_of_ok hfs⟩

/-- A chain compiles exactly if it has links, all of which could be made, and all its pieces
compile. -/
theorem compile_ofLinks_eq_ok_iff {links : List Link} {f : Fragment} :
    (ofLinks links).compile = .ok f ↔
      links ≠ [] ∧ links.findSome? Link.failure = none ∧
        ∃ fs, links.flatMap Link.pieces = fs.map Except.ok ∧ f = .concat fs := by
  have hchain := compilesTo_compile links
  constructor
  · intro h
    have hne : links ≠ [] := by
      intro hnil
      rw [hchain.empty hnil] at h
      cases h
    have hmade : links.findSome? Link.failure = none := by
      rw [Option.eq_none_iff_forall_ne_some]
      intro e he
      rw [hchain.unmade e he] at h
      cases h
    have hok : (links.flatMap Link.pieces).findSome? errorOf = none := by
      rw [Option.eq_none_iff_forall_ne_some]
      intro e he
      rw [hchain.refused hne hmade e he] at h
      cases h
    obtain ⟨fs, hfs, hr⟩ := hchain.joined hne hmade hok
    rw [hr] at h
    cases h
    exact ⟨hne, hmade, fs, hfs, rfl⟩
  · rintro ⟨hne, hmade, fs, hfs, rfl⟩
    rw [compile_ofLinks_of_made hne hmade]
    exact compileNodes_of_ok ((compiled_ofLinks links).trans hfs)

/-- Two chains that compile give their SQL side by side. -/
theorem compile_ofLinks_append {links more : List Link} {f g : Fragment}
    (h : (ofLinks links).compile = .ok f) (hmore : (ofLinks more).compile = .ok g) :
    (ofLinks (links ++ more)).compile = .ok (f ++ g) := by
  obtain ⟨hne, hmade, fs, hfs, rfl⟩ := compile_ofLinks_eq_ok_iff.mp h
  obtain ⟨-, hmade', gs, hgs, rfl⟩ := compile_ofLinks_eq_ok_iff.mp hmore
  refine compile_ofLinks_eq_ok_iff.mpr
    ⟨List.append_ne_nil_of_left_ne_nil hne _, ?_, fs ++ gs, ?_, ?_⟩
  · rw [List.findSome?_append, hmade, hmade']
    rfl
  · rw [List.flatMap_append, hfs, hgs, List.map_append]
  · rw [Fragment.concat_append]

/-! ### Conditions that all have to hold -/

/-- The chain in which every condition but the first stands behind an AND. -/
def conjunction : List Condition → List Link
  | [] => []
  | c :: cs => .push (.ok c) :: cs.map fun c => .join .and (.ok c)

/-- The filter that all of several conditions pass is the filter of that chain. -/
theorem ofConditions_eq_ofLinks (cs : List Condition) :
    ofConditions cs = ofLinks (conjunction cs) := by
  cases cs with
  | nil => rfl
  | cons c cs =>
    rw [conjunction, ofLinks, List.foldl_cons, List.foldl_map]
    rfl

/-- **How chains of conditions compile.**  The first link that could not be made gives its error.
Otherwise, if there are links, the first condition that cannot be compiled gives its error, and if
there is none then the SQL is that of all conditions and connectives in order, with nothing between
them, and the values are theirs in the same order.  So two chains that compile can be put together,
and conditions that all have to hold are a chain with AND. -/
theorem links_compile_in_order (links : List Link) :
    CompilesTo links (ofLinks links).compile ∧
      (∀ (more : List Link) (f g : Fragment), (ofLinks links).compile = .ok f →
        (ofLinks more).compile = .ok g → (ofLinks (links ++ more)).compile = .ok (f ++ g)) ∧
      ∀ cs : List Condition, ofConditions cs = ofLinks (conjunction cs) :=
  ⟨compilesTo_compile links, fun _ _ _ h hmore => compile_ofLinks_append h hmore,
    ofConditions_eq_ofLinks⟩

end Filter

end FluentSql
