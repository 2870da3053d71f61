import FluentSql.Opening
import FluentSql.Proofs.Rendering
import FluentSql.Statement

/-!
# Names in SQL

A name of the caller is written between backticks, part by part.  The form can be read back: a
reader takes quoted parts as long as a point follows, and so finds the parts of the name and the
place where it ends.  Hence a name neither ends before its last backtick nor reaches into the text
behind it, whatever characters it has, and different names stay different.

## Main definitions

* `properParts` — the parts of a name without the blanks around them.
* `spelled`, `readName` — the quoted form of some parts, and how it is read.
* `StandsApart` — a text that does not go on with a name in front of it.
* `IsNameOf` — SQL that reads as a name wherever it stands apart from what follows.
* `Places` — the places in SQL where a name of the caller stands.

## Main results

* `readName_eq_some_iff` — what is read is the quoted form and nothing else.
* `quoteQualified_eq_iff` — names are told apart by their parts.
* `places_delimit_names` — **every name in SQL reads back as it was given.**
-/

namespace FluentSql

/-! ### Reading names -/

/-- The parts of a name without the blanks around them. -/
def properParts (name : String) : List String := (nameParts name).map trimmed

/-- Some parts between backticks, with a point between each two. -/
def spelled (parts : List String) : List Char :=
  ['.'].intercalate (parts.map fun part => Text.quoted backtick part.toList)

/-- Read a part between backticks, and further ones as long as a point follows.  What comes after
the last backtick is left. -/
def readName (cs : List Char) : Option (List String × List Char) :=
  match _ : Text.readQuoted backtick cs with
  | none => none
  | some (part, rest) =>
    if rest.head? = some '.' then
      (readName rest.tail).map fun (parts, rest) => (String.ofList part :: parts, rest)
    else some ([String.ofList part], rest)
termination_by cs.length
decreasing_by
  obtain ⟨rfl, -⟩ := Text.readQuoted_eq_some_iff.mp ‹_›
  simp only [Text.quoted, List.length_append, List.length_cons, List.length_tail]
  omega

/-- The text does not go on with a name that stands in front of it: a backtick would double the
last one of the name, and a point would announce another part. -/
def StandsApart (rest : List Char) : Prop := rest.head? ≠ some backtick ∧ rest.head? ≠ some '.'

instance (rest : List Char) : Decidable (StandsApart rest) := inferInstanceAs (Decidable (_ ∧ _))

theorem spelled_singleton (part : String) :
    spelled [part] = Text.quoted backtick part.toList := by
  rw [spelled, List.map_singleton, List.intercalate_singleton]

theorem spelled_cons_cons (part next : String) (parts : List String) :
    spelled (part :: next :: parts) =
      Text.quoted backtick part.toList ++ '.' :: spelled (next :: parts) := by
  rw [spelled, spelled, List.map_cons, List.map_cons, List.intercalate_cons_cons,
    List.append_assoc, List.singleton_append]

theorem readName_of_readQuoted {cs part rest : List Char}
    (h : Text.readQuoted backtick cs = some (part, rest)) :
    readName cs =
      if rest.head? = some '.' then
        (readName rest.tail).map fun (parts, rest) => (String.ofList part :: parts, rest)
      else some ([String.ofList part], rest) := by
  rw [readName]
  split
  · rename_i hnone
    rw [h] at hnone
    cases hnone
  · rename_i hsome
    rw [h] at hsome
    cases hsome
    rfl

/-- The quoted form reads as the parts it was made of. -/
theorem readName_spelled {parts : List String} (hne : parts ≠ []) {rest : List Char}
    (h : StandsApart rest) : readName (spelled parts ++ rest) = some (parts, rest) := by
  induction parts with
  | nil => exact absurd rfl hne
  | cons part parts ih =>
    cases parts with
    | nil =>
      have hread := Text.readQuoted_quoted backtick part.toList rest h.1
      rw [spelled_singleton, readName_of_readQuoted hread, if_neg h.2, String.ofList_toList]
    | cons next parts =>
      -- behind the first part is a point, which is no backtick
      have hread := Text.readQuoted_quoted backtick part.toList
        ('.' :: (spelled (next :: parts) ++ rest)) (by simp [backtick])
      rw [spelled_cons_cons, List.append_assoc, List.cons_append, readName_of_readQuoted hread,
        if_pos List.head?_cons, List.tail_cons, ih (List.cons_ne_nil _ _), String.ofList_toList]
      rfl

theorem eq_of_readName {cs : List Char} {parts : List String} {rest : List Char}
    (h : readName cs = some (parts, rest)) :
    parts ≠ [] ∧ cs = spelled parts ++ rest ∧ StandsApart rest := by
  fun_induction readName cs generalizing parts rest with
  | case1 => cases h
  | case2 cs part after hread hpoint ih =>
    obtain ⟨⟨more, left⟩, hmore, heq⟩ := Option.map_eq_some_iff.mp h
    cases heq
    obtain ⟨hne, htail, hrest⟩ := ih hmore
    obtain ⟨rfl, -⟩ := Text.readQuoted_eq_some_iff.mp hread
    obtain ⟨next, more, rfl⟩ := List.exists_cons_of_ne_nil hne
    obtain ⟨tail, rfl⟩ := List.head?_eq_some_iff.mp hpoint
    rw [List.tail_cons] at htail
    refine ⟨List.cons_ne_nil _ _, ?_, hrest⟩
    rw [spelled_cons_cons, String.toList_ofList, htail, List.append_assoc, List.cons_append]
  | case3 cs part after hread hpoint =>
    cases h
    obtain ⟨rfl, hquote⟩ := Text.readQuoted_eq_some_iff.mp hread
    refine ⟨List.cons_ne_nil _ _, ?_, hquote, hpoint⟩
    rw [spelled_singleton, String.toList_ofList]

/-- **What is read is the quoted form and nothing else**: a text reads as a name exactly if it
begins with the quoted form of its parts and what follows stands apart. -/
theorem readName_eq_some_iff {cs : List Char} {parts : List String} {rest : List Char} :
    readName cs = some (parts, rest) ↔
      parts ≠ [] ∧ cs = spelled parts ++ rest ∧ StandsApart rest := by
  constructor
  · exact eq_of_readName
  · rintro ⟨hne, rfl, hrest⟩
    exact readName_spelled hne hrest

/-! ### Names of the caller -/

/-- The SQL reads as a name of these parts and leaves what follows, exactly if that stands apart. -/
def IsNameOf (sql : String) (parts : List String) : Prop :=
  ∀ rest, readName (sql.toList ++ rest) = some (parts, rest) ↔ StandsApart rest

theorem isNameOf_of_spelled {sql : String} {parts : List String} (hne : parts ≠ [])
    (h : sql.toList = spelled parts) : IsNameOf sql parts := by
  intro rest
  rw [h, readName_eq_some_iff]
  exact ⟨fun hread => hread.2.2, fun hrest => ⟨hne, rfl, hrest⟩⟩

theorem properParts_ne_nil (name : String) : properParts name ≠ [] := by
  rw [properParts, nameParts, ne_eq, List.map_eq_nil_iff, List.map_eq_nil_iff]
  exact Text.pieces_ne_nil _ _

theorem toList_quoteQualified_eq_spelled (name : String) :
    (quoteQualified name).toList = spelled (properParts name) := by
  have hparts : (properParts name).map (fun part => Text.quoted backtick part.toList) =
      (Text.pieces (· == '.') name.toList).map fun part =>
        Text.quoted backtick (Text.trim part) := by
    simp [properParts, nameParts, Function.comp_def]
  rw [toList_quoteQualified, spelled, hparts]

/-- A qualified name reads as its parts. -/
theorem isNameOf_quoteQualified (name : String) :
    IsNameOf (quoteQualified name) (properParts name) :=
  isNameOf_of_spelled (properParts_ne_nil name) (toList_quoteQualified_eq_spelled name)

/-- A name that is not divided reads as one part, with its points. -/
theorem isNameOf_quoteIdentifier (name : String) :
    IsNameOf (quoteIdentifier name) [trimmed name] := by
  refine isNameOf_of_spelled (List.cons_ne_nil _ _) ?_
  rw [toList_quoteIdentifier, spelled_singleton, toList_trimmed]

/-- The same SQL is the name of the same parts. -/
theorem IsNameOf.parts_eq {sql : String} {parts parts' : List String} (h : IsNameOf sql parts)
    (h' : IsNameOf sql parts') : parts = parts' := by
  have hread := (h []).mpr (by decide)
  have hread' := (h' []).mpr (by decide)
  rw [hread] at hread'
  cases hread'
  rfl

/-- **Names are told apart by their parts**, up to the blanks around them. -/
theorem quoteQualified_eq_iff {a b : String} :
    quoteQualified a = quoteQualified b ↔ properParts a = properParts b := by
  constructor
  · intro h
    exact (h ▸ isNameOf_quoteQualified a).parts_eq (isNameOf_quoteQualified b)
  · intro h
    rw [← String.toList_inj, toList_quoteQualified_eq_spelled, h,
      ← toList_quoteQualified_eq_spelled]

theorem quoteIdentifier_eq_iff {a b : String} :
    quoteIdentifier a = quoteIdentifier b ↔ trimmed a = trimmed b := by
  constructor
  · intro h
    exact (List.cons.inj ((h ▸ isNameOf_quoteIdentifier a).parts_eq
      (isNameOf_quoteIdentifier b))).1
  · intro h
    rw [quoteIdentifier, ← toList_trimmed, h, toList_trimmed]
    rfl

/-! ### The places of names -/

/-- A place in SQL where a name of the caller stands: what is in front of the name, the parts of
the name, and what is behind it. -/
inductive Places : (sql front : String) → (parts : List String) → (back : String) → Prop
  /-- A column. -/
  | column {name sql : String} (h : (Field.column name).render = .ok sql) :
    Places sql "" (properParts name) ""
  /-- The alias of a field. -/
  | fieldAlias {field : Field} {label body sql : String} (hbody : field.render = .ok body)
    (h : (Field.aliased field label).render = .ok sql) :
    Places sql (body ++ " AS ") [trimmed label] ""
  /-- A table. -/
  | table {name sql : String} (h : (Table.named name).render = .ok sql) :
    Places sql "" (properParts name) ""
  /-- The alias of a table. -/
  | tableAlias {table : Table} {label body sql : String} (hbody : table.render = .ok body)
    (h : (Table.aliased table label).render = .ok sql) :
    Places sql (body ++ " AS ") [trimmed label] ""
  /-- A view that is defined. -/
  | view (v : ViewHeader) :
    Places v.render ("CREATE VIEW " ++ if v.ifNotExists then "IF NOT EXISTS " else "")
      [trimmed v.name] " AS "
  /-- A view or a table that is removed or emptied. -/
  | removed {keywords name argument context : String} {f : Fragment}
    (h : namedFragment keywords name argument context = .ok f) :
    Places f.sql keywords (properParts (trimmed name)) ""

/-- In its place a name is quoted. -/
theorem exists_name_of_places {sql front back : String} {parts : List String}
    (h : Places sql front parts back) :
    ∃ name, sql = front ++ name ++ back ∧ IsNameOf name parts := by
  cases h with
  | column h =>
    simp only [Field.render, ite_error_eq_ok_iff] at h
    cases h.2
    exact ⟨_, by simp, isNameOf_quoteQualified _⟩
  | fieldAlias hbody h =>
    simp only [Field.render, hbody, bind_eq_ok_iff, pure_eq_ok_iff] at h
    obtain ⟨s, hs, rfl⟩ := h
    cases hs
    exact ⟨_, by simp, isNameOf_quoteIdentifier _⟩
  | table h =>
    simp only [Table.render, ite_error_eq_ok_iff] at h
    cases h.2
    exact ⟨_, by simp, isNameOf_quoteQualified _⟩
  | tableAlias hbody h =>
    simp only [Table.render, hbody, bind_eq_ok_iff, pure_eq_ok_iff] at h
    obtain ⟨s, hs, rfl⟩ := h
    cases hs
    exact ⟨_, by simp, isNameOf_quoteIdentifier _⟩
  | view v => exact ⟨_, rfl, isNameOf_quoteIdentifier _⟩
  | removed h =>
    simp only [namedFragment, requireName, bind_eq_ok_iff, pure_eq_ok_iff,
      ite_error_eq_ok_iff] at h
    obtain ⟨name, ⟨-, hname⟩, rfl⟩ := h
    cases hname
    exact ⟨_, by simp [Fragment.ofSql], isNameOf_quoteQualified _⟩

/-- **Every name in SQL reads back as it was given.**  One reader does it for all of them: behind a
qualified name it finds the parts and leaves what follows, unless that goes on with a backtick or a
point; a name that is not divided is one part.  So does the reader in every place where the name of
a column, a table, an alias or a view stands.  Two names are written alike exactly if their parts
are the same. -/
theorem places_delimit_names :
    (∀ (name : String) (rest : List Char),
      readName ((quoteQualified name).toList ++ rest) = some (properParts name, rest) ↔
        rest.head? ≠ some backtick ∧ rest.head? ≠ some '.') ∧
    (∀ (sql front back : String) (parts : List String), Places sql front parts back →
      ∃ name, sql = front ++ name ++ back ∧ ∀ rest : List Char,
        readName (name.toList ++ rest) = some (parts, rest) ↔
          rest.head? ≠ some backtick ∧ rest.head? ≠ some '.') ∧
    (∀ a b : String, quoteQualified a = quoteQualified b ↔ properParts a = properParts b) ∧
    (∀ a b : String, quoteIdentifier a = quoteIdentifier b ↔ trimmed a = trimmed b) := by
  refine ⟨isNameOf_quoteQualified, fun sql front back parts h => ?_,
    fun a b => quoteQualified_eq_iff, fun a b => quoteIdentifier_eq_iff⟩
  exact exists_name_of_places h

end FluentSql
