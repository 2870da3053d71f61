import FluentSql.Fragment
import FluentSql.Proofs.Values
import FluentSql.Table

/-!
# Rendering of fields and tables

A text that names a field gives SQL whenever it is not blank, and so does a table in which nothing
is missing.  A text without ` as ` is told apart by three characters: with a parenthesis or a star
it is passed on, and otherwise it is a name, which is written with more backticks than it had.

## Main definitions

* `Text.Tight` — a text that ends, and without a blank.

## Main results

* `not_holdsWord_quoteQualified`, `count_quoteQualified` — quoting a name adds points and backticks
  and nothing else.
* `Field.aliasInduction` — induction along the aliases that are cut off a text.
* `Field.render_ofChars` — **what a text without an alias is as SQL.**
* `Field.exists_render_parse`, `Field.render_parse_of_isBlankText` — **every text but a blank one
  names a field that has SQL.**
* `Table.exists_render` — **every table in which nothing is missing has SQL.**
* `Field.tight_render`, `Table.tight_render`, `terminated_append` — fields and tables end without a
  blank, so that only a semicolon is added behind them.
-/

namespace FluentSql

namespace Text

variable {c q : Char} {cs ds word : List Char}

/-! ### Texts side by side -/

/-- What is counted stands in the parts and in the separators between them. -/
theorem countP_intercalate (p : Char → Bool) (separator : List Char) (parts : List (List Char)) :
    (separator.intercalate parts).countP p =
      parts.flatten.countP p + (parts.length - 1) * separator.countP p := by
  induction parts with
  | nil => simp
  | cons part parts ih =>
    cases parts with
    | nil => simp
    | cons next rest =>
      rw [List.intercalate_cons_cons, List.countP_append, List.countP_append, ih,
        List.flatten_cons (l := part), List.countP_append, List.length_cons (a := part),
        Nat.add_sub_cancel, List.length_cons, Nat.add_sub_cancel, Nat.add_mul]
      omega

/-- Separators may hold nothing of what is counted. -/
theorem count_intercalate {separator : List Char} (h : c ∉ separator) (parts : List (List Char)) :
    (separator.intercalate parts).count c = parts.flatten.count c := by
  have hnone : separator.countP (· == c) = 0 := List.count_eq_zero.mpr h
  rw [List.count_eq_countP, List.count_eq_countP, countP_intercalate, hnone, Nat.mul_zero,
    Nat.add_zero]

/-- Parts that keep a character keep it together. -/
theorem count_flatten_map {f : List Char → List Char}
    (h : ∀ part, (f part).count c = part.count c) (parts : List (List Char)) :
    (parts.map f).flatten.count c = parts.flatten.count c := by
  induction parts with
  | nil => rfl
  | cons part parts ih =>
    rw [List.map_cons, List.flatten_cons, List.flatten_cons, List.count_append, List.count_append,
      h, ih]

/-- Parts that gain a character gain it together. -/
theorem count_flatten_map_of_lt {f : List Char → List Char}
    (h : ∀ part, part.count c < (f part).count c) (parts : List (List Char)) :
    parts.flatten.count c + parts.length ≤ (parts.map f).flatten.count c := by
  induction parts with
  | nil => exact Nat.le_refl _
  | cons part parts ih =>
    have hpart := h part
    rw [List.map_cons, List.flatten_cons, List.flatten_cons, List.count_append, List.count_append,
      List.length_cons]
    omega

/-- A separator that a word does not hold makes no new word. -/
theorem not_holdsWord_intercalate (hne : word ≠ []) (hc : c.toLower ∉ word)
    {parts : List (List Char)} (h : ∀ part ∈ parts, holdsWord word part = false) :
    holdsWord word ([c].intercalate parts) = false := by
  induction parts with
  | nil => exact holdsWord_nil hne
  | cons part parts ih =>
    obtain ⟨hpart, hparts⟩ := List.forall_mem_cons.mp h
    cases parts with
    | nil =>
      rw [List.intercalate_singleton]
      exact hpart
    | cons next rest =>
      rw [List.intercalate_cons_cons, List.append_assoc, List.singleton_append,
        holdsWord_append_cons hne hc, hpart, ih hparts]
      rfl

/-! ### Quoting -/

theorem count_doubled_of_ne (h : c ≠ q) (cs : List Char) :
    (doubled q cs).count c = cs.count c := by
  induction cs with
  | nil => rfl
  | cons d cs ih =>
    by_cases hd : d = q
    · have hdc : d ≠ c := fun hdc => h (hdc.symm.trans hd)
      rw [doubled, if_pos hd, List.count_cons_of_ne (Ne.symm h), List.count_cons_of_ne (Ne.symm h),
        List.count_cons_of_ne hdc, ih]
    · rw [doubled, if_neg hd, List.count_cons, List.count_cons, ih]

theorem count_doubled_self (q : Char) (cs : List Char) :
    (doubled q cs).count q = 2 * cs.count q := by
  induction cs with
  | nil => rfl
  | cons d cs ih =>
    by_cases hd : d = q
    · rw [doubled, if_pos hd, List.count_cons_self, List.count_cons_self, ih, hd,
        List.count_cons_self]
      omega
    · rw [doubled, if_neg hd, List.count_cons_of_ne hd, List.count_cons_of_ne hd, ih]

theorem count_quoted_of_ne (h : c ≠ q) (cs : List Char) : (quoted q cs).count c = cs.count c := by
  rw [quoted, List.count_cons_of_ne (Ne.symm h), List.count_append, count_doubled_of_ne h,
    List.count_cons_of_ne (Ne.symm h)]
  rfl

theorem count_quoted_self (q : Char) (cs : List Char) :
    (quoted q cs).count q = 2 * cs.count q + 2 := by
  rw [quoted, List.count_cons_self, List.count_append, count_doubled_self, List.count_cons_self]
  rfl

theorem startsWithWord_of_doubled (hq : q.toLower ∉ word)
    (h : startsWithWord word (doubled q cs) = true) : startsWithWord word cs = true := by
  induction word generalizing cs with
  | nil => rw [startsWithWord]
  | cons w word ih =>
    rw [List.mem_cons, not_or] at hq
    cases cs with
    | nil => exact h
    | cons c cs =>
      by_cases hc : c = q
      · rw [doubled, if_pos hc, startsWithWord, Bool.and_eq_true, beq_iff_eq] at h
        exact absurd h.1.symm hq.1
      · rw [doubled, if_neg hc, startsWithWord, Bool.and_eq_true] at h
        rw [startsWithWord, Bool.and_eq_true]
        exact ⟨h.1, ih hq.2 h.2⟩

/-- Quote characters that are written twice make no new word. -/
theorem not_holdsWord_quoted (hne : word ≠ []) (hq : q.toLower ∉ word)
    (h : holdsWord word cs = false) : holdsWord word (quoted q cs) = false := by
  have hdoubled : holdsWord word (doubled q cs) = false := by
    induction cs with
    | nil => exact h
    | cons c cs ih =>
      rw [holdsWord, Bool.or_eq_false_iff] at h
      by_cases hc : c = q
      · rw [doubled, if_pos hc, holdsWord_cons hne hq, holdsWord_cons hne hq]
        exact ih h.2
      · have hstart : startsWithWord word (doubled q (c :: cs)) = false := by
          rw [Bool.eq_false_iff]
          exact fun hs => Bool.eq_false_iff.mp h.1 (startsWithWord_of_doubled hq hs)
        rw [doubled, if_neg hc] at hstart ⊢
        rw [holdsWord, hstart, ih h.2]
        rfl
  rw [quoted, holdsWord_cons hne hq, holdsWord_append_cons hne hq, hdoubled, holdsWord_nil hne]
  rfl

/-! ### The last character -/

/-- The text ends, and without a blank. -/
def Tight (cs : List Char) : Prop := ∃ ds c, cs = ds ++ [c] ∧ isBlank c = false

theorem tight_append {ds : List Char} (h : Tight ds) (cs : List Char) : Tight (cs ++ ds) := by
  obtain ⟨es, c, rfl, hc⟩ := h
  exact ⟨cs ++ es, c, (List.append_assoc _ _ _).symm, hc⟩

theorem allBlank_of_tight (h : Tight cs) : allBlank cs = false := by
  obtain ⟨front, c, rfl, hc⟩ := h
  exact allBlank_eq_false_of_mem (by simp) hc

theorem trimEnd_of_tight (h : Tight cs) : trimEnd cs = cs := by
  refine trimEnd_eq_self fun c hc => ?_
  obtain ⟨ds, d, rfl, hd⟩ := h
  rw [List.getLast?_concat] at hc
  cases hc
  exact hd

theorem tight_trim {cs : List Char} (h : allBlank cs = false) : Tight (trim cs) := by
  have hfirst := List.head?_dropWhile_not isBlank (trimStart cs).reverse
  cases hdrop : (trimStart cs).reverse.dropWhile isBlank with
  | nil =>
    have hnil : trim cs = [] := by rw [trim, trimEnd, hdrop, List.reverse_nil]
    rw [trim_eq_nil_iff, h] at hnil
    cases hnil
  | cons c ds =>
    rw [hdrop] at hfirst
    refine ⟨ds.reverse, c, ?_, by simpa using hfirst⟩
    rw [trim, trimEnd, hdrop, List.reverse_cons]

theorem tight_intercalate {separator : List Char} {parts : List (List Char)}
    (hne : parts ≠ []) (h : ∀ part ∈ parts, Tight part) : Tight (separator.intercalate parts) := by
  induction parts with
  | nil => exact absurd rfl hne
  | cons part parts ih =>
    obtain ⟨hpart, hparts⟩ := List.forall_mem_cons.mp h
    cases parts with
    | nil =>
      rw [List.intercalate_singleton]
      exact hpart
    | cons next rest =>
      rw [List.intercalate_cons_cons]
      exact tight_append (ih (List.cons_ne_nil _ _) hparts) _

theorem tight_quoted {q : Char} (hq : isBlank q = false) (cs : List Char) :
    Tight (quoted q cs) := ⟨q :: doubled q cs, q, rfl, hq⟩

end Text

/-! ### Names -/

theorem toList_quoteQualified (name : String) :
    (quoteQualified name).toList =
      ['.'].intercalate ((Text.pieces (· == '.') name.toList).map fun part =>
        Text.quoted backtick (Text.trim part)) := by
  simp [quoteQualified, nameParts, Function.comp_def]

/-- Quoting a name makes no new word. -/
theorem not_holdsWord_quoteQualified {word : List Char} (hne : word ≠ [])
    (hpoint : '.'.toLower ∉ word) (hquote : backtick.toLower ∉ word) {name : String}
    (h : Text.holdsWord word name.toList = false) :
    Text.holdsWord word (quoteQualified name).toList = false := by
  rw [toList_quoteQualified]
  refine Text.not_holdsWord_intercalate hne hpoint fun part hpart => ?_
  obtain ⟨piece, hpiece, rfl⟩ := List.mem_map.mp hpart
  refine Text.not_holdsWord_quoted hne hquote ?_
  -- a word of a part would stand in the name too
  exact Text.not_holdsWord_of_isInfix
    ((Text.isInfix_trim piece).trans (Text.isInfix_of_mem_pieces hpiece)) h

/-- Nor any character but points and backticks. -/
theorem count_quoteQualified {c : Char} (hblank : isBlank c = false) (hpoint : c ≠ '.')
    (hquote : c ≠ backtick) (name : String) :
    (quoteQualified name).toList.count c = name.toList.count c := by
  have hpart : ∀ part : List Char,
      (Text.quoted backtick (Text.trim part)).count c = part.count c := by
    intro part
    rw [Text.count_quoted_of_ne hquote, Text.count_trim hblank]
  have hnot : (c == '.') = false := beq_false_of_ne hpoint
  rw [toList_quoteQualified, Text.count_intercalate (by simpa using hpoint),
    Text.count_flatten_map hpart, Text.count_pieces (p := (· == '.')) hnot]

/-- Of backticks there are always more. -/
theorem count_backtick_quoteQualified (name : String) :
    name.toList.count backtick < (quoteQualified name).toList.count backtick := by
  have hpart : ∀ part : List Char,
      part.count backtick < (Text.quoted backtick (Text.trim part)).count backtick := by
    intro part
    rw [Text.count_quoted_self, Text.count_trim (by decide)]
    omega
  have hmore := Text.count_flatten_map_of_lt hpart (Text.pieces (· == '.') name.toList)
  have hname := Text.count_pieces (p := (· == '.')) (c := backtick) rfl name.toList
  have hlength := List.length_pos_iff.mpr (Text.pieces_ne_nil (· == '.') name.toList)
  rw [toList_quoteQualified, Text.count_intercalate (by decide)]
  omega

/-! ### Fields -/

theorem Text.allBlank_trim (cs : List Char) : Text.allBlank (Text.trim cs) = Text.allBlank cs := by
  rw [Bool.eq_iff_iff, ← Text.trim_eq_nil_iff, ← Text.trim_eq_nil_iff, Text.trim_trim]

namespace Field

variable {cs : List Char}

theorem isExpressionText_iff : isExpressionText cs = true ↔ '(' ∈ cs ∨ ')' ∈ cs ∨ '*' ∈ cs := by
  simp [isExpressionText, or_assoc]

theorem isExpressionText_trim (cs : List Char) :
    isExpressionText (Text.trim cs) = isExpressionText cs := by
  rw [Bool.eq_iff_iff, isExpressionText_iff, isExpressionText_iff, Text.mem_trim (by decide),
    Text.mem_trim (by decide), Text.mem_trim (by decide)]

theorem allBlank_of_isExpressionText (h : isExpressionText cs = true) :
    Text.allBlank cs = false := by
  rw [Bool.eq_false_iff, ne_eq, ← Text.trim_eq_nil_iff]
  intro hnil
  rw [← isExpressionText_trim, hnil] at h
  cases h

/-- What stands before an alias is not blank. -/
theorem allBlank_of_splitAlias {item body label : List Char}
    (h : splitAlias item = some (body, label)) : Text.allBlank body = false := by
  rw [splitAlias] at h
  split at h
  · cases h
  · split at h
    · cases h
    · rename_i hblank
      cases h
      rw [Text.allBlank_trim]
      exact (Bool.or_eq_false_iff.mp (Bool.of_not_eq_true hblank)).1

/-- Texts are cut at their aliases until there is none: what holds of a text without alias, and of
one whose front it holds of, holds of all. -/
theorem aliasInduction {motive : List Char → Prop}
    (whole : ∀ cs, splitAlias (Text.trim cs) = none → motive cs)
    (cut : ∀ cs body label, splitAlias (Text.trim cs) = some (body, label) → motive body →
      motive cs) (cs : List Char) : motive cs := by
  induction hn : cs.length using Nat.strongRecOn generalizing cs with
  | ind n ih =>
    cases hsplit : splitAlias (Text.trim cs) with
    | none => exact whole cs hsplit
    | some pair =>
      obtain ⟨body, label⟩ := pair
      have hlength : body.length < n := by
        have hbody := length_lt_of_splitAlias hsplit
        have htrim := Text.length_trim_le cs
        omega
      exact cut cs body label hsplit (ih body.length hlength body rfl)

theorem ofChars_of_splitAlias {body label : List Char}
    (h : splitAlias (Text.trim cs) = some (body, label)) :
    ofChars cs = (ofChars body).withAlias (String.ofList label) := by
  rw [ofChars]
  split
  · rename_i hstar
    rw [hstar] at h
    cases h
  · split
    · rename_i hsplit
      rw [h] at hsplit
      cases hsplit
      rfl
    · rename_i hsplit
      rw [h] at hsplit
      cases hsplit

/-- A text without an alias is all columns, an expression or a column. -/
theorem ofChars_of_splitAlias_eq_none (h : splitAlias (Text.trim cs) = none) :
    ofChars cs =
      if Text.trim cs = ['*'] then star
      else if isExpressionText cs then expression (String.ofList (Text.trim cs))
      else column (String.ofList (Text.trim cs)) := by
  rw [ofChars]
  split
  · rfl
  · split
    · rename_i hsplit
      rw [h] at hsplit
      cases hsplit
    · rw [isExpressionText_trim]

/-- Blanks around a text do not matter. -/
theorem ofChars_trim (cs : List Char) : ofChars (Text.trim cs) = ofChars cs := by
  have htrim := Text.trim_trim cs
  cases hsplit : splitAlias (Text.trim cs) with
  | none =>
    have hsplit' : splitAlias (Text.trim (Text.trim cs)) = none := by rw [htrim, hsplit]
    rw [ofChars_of_splitAlias_eq_none hsplit, ofChars_of_splitAlias_eq_none hsplit', htrim,
      isExpressionText_trim]
  | some cut =>
    obtain ⟨body, label⟩ := cut
    have hsplit' : splitAlias (Text.trim (Text.trim cs)) = some (body, label) := by
      rw [htrim, hsplit]
    rw [ofChars_of_splitAlias hsplit, ofChars_of_splitAlias hsplit']

/-- A text without ` as ` has no alias. -/
theorem splitAlias_eq_none (h : Text.holdsWord aliasWord cs = false) : splitAlias cs = none := by
  rw [splitAlias, (Text.cutLast_eq_none_iff (by decide)).mpr h]

theorem splitAlias_trim_eq_none (h : Text.holdsWord aliasWord cs = false) :
    splitAlias (Text.trim cs) = none :=
  splitAlias_eq_none (Text.not_holdsWord_of_isInfix (Text.isInfix_trim cs) h)

/-- **What a text without an alias is as SQL**: with a parenthesis or a star it is passed on, and
otherwise it is quoted as a name, for which it must not be blank. -/
theorem render_ofChars (h : splitAlias (Text.trim cs) = none) :
    (ofChars cs).render =
      if isExpressionText cs then .ok (String.ofList (Text.trim cs))
      else if Text.allBlank cs then .error blankError
      else .ok (quoteQualified (String.ofList (Text.trim cs))) := by
  have hblank : isBlankText (String.ofList (Text.trim cs)) = Text.allBlank cs := by
    rw [isBlankText, String.toList_ofList, Text.allBlank_trim]
  rw [ofChars_of_splitAlias_eq_none h]
  by_cases hstar : Text.trim cs = ['*']
  · have hexpression : isExpressionText cs = true := by
      rw [← isExpressionText_trim, hstar]
      rfl
    rw [if_pos hstar, if_pos hexpression, hstar]
    rfl
  · rw [if_neg hstar]
    by_cases hexpression : isExpressionText cs = true
    · have htext : trimmed (String.ofList (Text.trim cs)) = String.ofList (Text.trim cs) := by
        rw [trimmed, String.toList_ofList, Text.trim_trim]
      rw [if_pos hexpression, if_pos hexpression, render, hblank,
        allBlank_of_isExpressionText hexpression, htext]
      rfl
    · rw [if_neg hexpression, if_neg hexpression, render, hblank]

theorem render_aliased {field : Field} {s : String} (h : field.render = .ok s) (label : String) :
    (aliased field label).render = .ok (s ++ " AS " ++ quoteIdentifier label) := by
  rw [render, h]
  rfl

/-- A field keeps its SQL under another alias. -/
theorem exists_render_withAlias {field : Field} {s : String} (h : field.render = .ok s)
    (label : String) : ∃ t, (field.withAlias label).render = .ok t := by
  cases field with
  | aliased inner old =>
    simp only [render, bind_eq_ok_iff] at h
    obtain ⟨t, ht, -⟩ := h
    exact ⟨_, render_aliased ht _⟩
  | _ => exact ⟨_, render_aliased h _⟩

theorem exists_render_ofChars (h : Text.allBlank cs = false) :
    ∃ s, (ofChars cs).render = .ok s := by
  induction cs using aliasInduction with
  | whole cs hsplit =>
    rw [render_ofChars hsplit, h]
    by_cases hexpression : isExpressionText cs = true
    · exact ⟨_, if_pos hexpression⟩
    · exact ⟨_, if_neg hexpression⟩
  | cut cs body label hsplit ih =>
    obtain ⟨s, hs⟩ := ih (allBlank_of_splitAlias hsplit)
    rw [ofChars_of_splitAlias hsplit]
    exact exists_render_withAlias hs _

/-- **Every text but a blank one names a field that has SQL.** -/
theorem exists_render_parse {s : String} (h : isBlankText s = false) :
    ∃ t, (parse s).render = .ok t :=
  exists_render_ofChars h

/-- A blank text names a column without a name. -/
theorem render_parse_of_isBlankText {s : String} (h : isBlankText s = true) :
    (parse s).render = .error blankError := by
  have hblank : Text.allBlank s.toList = true := h
  have htrim : Text.trim s.toList = [] := (Text.trim_eq_nil_iff _).mpr hblank
  have hsplit : splitAlias (Text.trim s.toList) = none := by
    rw [htrim]
    rfl
  have hname : ¬isExpressionText s.toList = true := by
    rw [← isExpressionText_trim, htrim]
    decide
  rw [parse, render_ofChars hsplit, if_neg hname, if_pos hblank]

/-- A field has no SQL only if its text is missing. -/
theorem error_render {field : Field} {e : Error} (h : field.render = .error e) :
    e = blankError := by
  induction field with
  | star => cases h
  | column name =>
    unfold render at h
    split at h <;> cases h
    rfl
  | expression sql =>
    unfold render at h
    split at h <;> cases h
    rfl
  | aliased field label ih =>
    rw [render, bind_eq_error_iff] at h
    rcases h with h | ⟨s, -, h⟩
    · exact ih h
    · cases h

/-! ### Lists of fields -/

theorem renderList_of_ne_nil {fields : List Field} (h : fields ≠ []) :
    renderList fields = (renderEach fields).map fun ss => ", ".intercalate ss := by
  have hne : ¬fields.isEmpty = true := fun hempty => h (List.isEmpty_iff.mp hempty)
  rw [renderList, if_neg hne]
  cases renderEach fields <;> rfl

section Texts

variable {texts : List String}

theorem exists_renderEach_parse (hblank : ∀ text ∈ texts, isBlankText text = false) :
    ∃ sqls, renderEach (texts.map parse) = .ok sqls := by
  induction texts with
  | nil => exact ⟨[], rfl⟩
  | cons text texts ih =>
    obtain ⟨htext, htexts⟩ := List.forall_mem_cons.mp hblank
    obtain ⟨sql, hsql⟩ := exists_render_parse htext
    obtain ⟨sqls, hsqls⟩ := ih htexts
    refine ⟨sql :: sqls, ?_⟩
    rw [List.map_cons, renderEach, hsql, hsqls]
    rfl

/-- Fields that several texts name have no SQL if one of the texts is blank. -/
theorem renderEach_parse_of_isBlankText {text : String} (htext : text ∈ texts)
    (h : isBlankText text = true) : renderEach (texts.map parse) = .error blankError := by
  induction texts with
  | nil => cases htext
  | cons first texts ih =>
    rw [List.map_cons, renderEach]
    by_cases hfirst : isBlankText first = true
    · rw [render_parse_of_isBlankText hfirst]
      rfl
    · obtain ⟨sql, hsql⟩ := exists_render_parse (Bool.of_not_eq_true hfirst)
      rcases List.mem_cons.mp htext with rfl | hrest
      · exact absurd h hfirst
      · rw [hsql, ih hrest]
        rfl

end Texts

end Field

/-! ### Tables -/

mutual

/-- **Every table in which nothing is missing has SQL.** -/
theorem Table.exists_render {table : Table} (h : table.isEmpty = false) :
    ∃ s, table.render = .ok s := by
  cases table with
  | named name =>
    rw [isEmpty] at h
    exact ⟨_, by rw [render, h]; rfl⟩
  | subquery sql =>
    rw [isEmpty] at h
    exact ⟨_, by rw [render, h]; rfl⟩
  | expression sql =>
    rw [isEmpty] at h
    exact ⟨_, by rw [render, h]; rfl⟩
  | aliased table label =>
    rw [isEmpty] at h
    obtain ⟨s, hs⟩ := Table.exists_render h
    exact ⟨s ++ " AS " ++ quoteIdentifier label, by rw [render, hs]; rfl⟩
  | list tables =>
    rw [isEmpty, Bool.or_eq_false_iff] at h
    obtain ⟨ss, hss⟩ := Table.exists_renderEach h.2
    exact ⟨", ".intercalate ss, by rw [render, h.1, hss]; rfl⟩

theorem Table.exists_renderEach {tables : List Table} (h : Table.anyEmpty tables = false) :
    ∃ ss, Table.renderEach tables = .ok ss := by
  cases tables with
  | nil => exact ⟨[], by rw [renderEach]⟩
  | cons table tables =>
    rw [anyEmpty, Bool.or_eq_false_iff] at h
    obtain ⟨s, hs⟩ := Table.exists_render h.1
    obtain ⟨ss, hss⟩ := Table.exists_renderEach h.2
    exact ⟨s :: ss, by rw [renderEach, hs, hss]; rfl⟩

end

/-! ### The last character -/

theorem tight_quoteQualified (name : String) : Text.Tight (quoteQualified name).toList := by
  rw [toList_quoteQualified]
  refine Text.tight_intercalate ?_ fun part hpart => ?_
  · rw [ne_eq, List.map_eq_nil_iff]
    exact Text.pieces_ne_nil _ _
  · obtain ⟨piece, -, rfl⟩ := List.mem_map.mp hpart
    exact Text.tight_quoted (by decide) _

/-- A field ends without a blank. -/
theorem Field.tight_render {field : Field} {s : String} (h : field.render = .ok s) :
    Text.Tight s.toList := by
  cases field with
  | star =>
    cases h
    exact ⟨[], '*', rfl, by decide⟩
  | column name =>
    simp only [render, ite_error_eq_ok_iff] at h
    cases h.2
    exact tight_quoteQualified name
  | expression sql =>
    simp only [render, ite_error_eq_ok_iff] at h
    obtain ⟨hblank, heq⟩ := h
    cases heq
    rw [toList_trimmed]
    exact Text.tight_trim (Bool.of_not_eq_true hblank)
  | aliased field label =>
    simp only [render, bind_eq_ok_iff, pure_eq_ok_iff] at h
    obtain ⟨body, -, rfl⟩ := h
    rw [String.toList_append, toList_quoteIdentifier]
    exact Text.tight_append (Text.tight_quoted (by decide) _) _

mutual

/-- A table ends without a blank. -/
theorem Table.tight_render {table : Table} {s : String} (h : table.render = .ok s) :
    Text.Tight s.toList := by
  cases table with
  | named name =>
    simp only [render, ite_error_eq_ok_iff] at h
    cases h.2
    exact tight_quoteQualified name
  | subquery sql =>
    simp only [render, ite_error_eq_ok_iff] at h
    cases h.2
    rw [String.toList_ofList, parenthesised]
    split
    · rename_i hparen
      obtain ⟨ds, hds⟩ := List.getLast?_eq_some_iff.mp hparen.2
      exact ⟨ds, ')', hds, by decide⟩
    · exact ⟨'(' :: Text.trim sql.toList, ')', rfl, by decide⟩
  | expression sql =>
    simp only [render, ite_error_eq_ok_iff] at h
    cases h.2
    rw [toList_trimmed]
    exact Text.tight_trim (Bool.of_not_eq_true h.1)
  | aliased table label =>
    simp only [render, bind_eq_ok_iff, pure_eq_ok_iff] at h
    obtain ⟨inner, -, rfl⟩ := h
    rw [String.toList_append, toList_quoteIdentifier]
    exact Text.tight_append (Text.tight_quoted (by decide) _) _
  | list tables =>
    simp only [render, ite_error_eq_ok_iff, bind_eq_ok_iff, pure_eq_ok_iff] at h
    obtain ⟨hne, ss, hss, rfl⟩ := h
    rw [String.toList_intercalate]
    obtain ⟨hlength, htight⟩ := Table.tight_renderEach hss
    refine Text.tight_intercalate (fun hnil => hne ?_) fun part hpart => ?_
    · rw [List.map_eq_nil_iff] at hnil
      rw [hnil, List.length_nil] at hlength
      rw [List.isEmpty_iff]
      exact List.eq_nil_of_length_eq_zero hlength.symm
    · obtain ⟨s, hs, rfl⟩ := List.mem_map.mp hpart
      exact htight s hs

theorem Table.tight_renderEach {tables : List Table} {ss : List String}
    (h : Table.renderEach tables = .ok ss) :
    ss.length = tables.length ∧ ∀ s ∈ ss, Text.Tight s.toList := by
  cases tables with
  | nil =>
    rw [renderEach] at h
    cases h
    exact ⟨rfl, fun _ hs => by cases hs⟩
  | cons table tables =>
    simp only [renderEach, bind_eq_ok_iff, pure_eq_ok_iff] at h
    obtain ⟨s, hs, rest, hrest, rfl⟩ := h
    obtain ⟨hlength, htight⟩ := Table.tight_renderEach hrest
    refine ⟨by rw [List.length_cons, List.length_cons, hlength], ?_⟩
    exact List.forall_mem_cons.mpr ⟨Table.tight_render hs, htight⟩

end

/-- Only a semicolon is added to a text that ends without a blank, unless it ends with one. -/
theorem terminated_append {t : String} (h : Text.Tight t.toList) (s : String) :
    terminated (s ++ t) = s ++ t ++ if t.toList.getLast? = some ';' then "" else ";" := by
  have hlast : (s ++ t).toList.getLast? = t.toList.getLast? := by
    obtain ⟨ds, d, ht, -⟩ := h
    rw [String.toList_append, ht, ← List.append_assoc, List.getLast?_concat, List.getLast?_concat]
  have htrim : Text.trimEnd (s ++ t).toList = (s ++ t).toList := by
    rw [String.toList_append]
    exact Text.trimEnd_of_tight (Text.tight_append h _)
  rw [terminated, htrim, hlast]
  split
  · rw [String.ofList_toList, String.append_empty]
  · rw [String.ofList_append, String.ofList_toList]

end FluentSql
