import FluentSql.Proofs.Aliases
import FluentSql.Proofs.Offsets

/-!
# The form of fields with aliases

A field that text, a name or an expression gives has one alias at most, however many are attached
to it: each new one takes the place of the one before.  A text attaches those that its separators
` as ` divide from it, the last one last.  What is left when it has been cut at all of them is a
field without an alias.

## Main definitions

* `Field.levels` — how many aliases stand around a field.
* `Field.Separates`, `Field.Cuts` — a text that its last separator divides, and one that is cut at
  all of them.
* `Field.Source`, `Field.Source.Gives` — where a field comes from, and what it is made of.
* `Unquotes` — an alias without the quote characters around it.

## Main results

* `Field.exists_isCut` — **a text is cut in one way**, and in a number of steps that its length
  bounds.
* `Field.ofChars_of_cuts` — what a text that is cut names.
* `unquoteAlias_eq_iff` — the quote characters around an alias are removed.
* `Field.alias_normal_form` — **one alias at most, the last one attached.**
-/

namespace FluentSql

/-! ### Quote characters around an alias -/

/-- A text without the quote characters around it. -/
structure Unquotes (cs inner : List Char) : Prop where
  /-- Quote characters stand around the inner text. -/
  around : ∃ front back, cs = front ++ (inner ++ back) ∧ front.all isQuote = true ∧
    back.all isQuote = true
  head : ∀ c, inner.head? = some c → isQuote c = false
  last : ∀ c, inner.getLast? = some c → isQuote c = false

/-- Quote characters in front are dropped. -/
theorem dropWhile_isQuote {front inner : List Char} (hfront : front.all isQuote = true)
    (hhead : ∀ c, inner.head? = some c → isQuote c = false) :
    (front ++ inner).dropWhile isQuote = inner := by
  rw [List.dropWhile_append_of_pos (List.all_eq_true.mp hfront)]
  cases inner with
  | nil => rfl
  | cons c inner => exact List.dropWhile_cons_of_neg (by simp [hhead c rfl])

/-- What is left after dropping has no quote character in front. -/
theorem isQuote_head?_dropWhile {cs : List Char} {c : Char}
    (h : (cs.dropWhile isQuote).head? = some c) : isQuote c = false := by
  have hnot := List.head?_dropWhile_not isQuote cs
  rw [h] at hnot
  exact Bool.of_not_eq_true (by simpa using hnot)

/-- Quote characters at the end are dropped. -/
theorem dropQuotes_append {inner back : List Char} (hback : back.all isQuote = true)
    (hlast : ∀ c, inner.getLast? = some c → isQuote c = false) :
    Text.dropQuotes (inner ++ back) = inner := by
  have hreverse : back.reverse.all isQuote = true := by rw [List.all_reverse, hback]
  have hhead : ∀ c, inner.reverse.head? = some c → isQuote c = false := by
    intro c hc
    rw [List.head?_reverse] at hc
    exact hlast c hc
  rw [Text.dropQuotes, List.reverse_append, dropWhile_isQuote hreverse hhead, List.reverse_reverse]

/-- The text without its quote characters at the end, and those. -/
theorem eq_dropQuotes_append (cs : List Char) :
    cs = Text.dropQuotes cs ++ (cs.reverse.takeWhile isQuote).reverse := by
  rw [Text.dropQuotes, ← List.reverse_append, List.takeWhile_append_dropWhile, List.reverse_reverse]

/-- **There is one text without the quote characters**, and this is it. -/
theorem unquotes_iff {cs inner : List Char} :
    Unquotes cs inner ↔ Text.dropQuotes (cs.dropWhile isQuote) = inner := by
  constructor
  · rintro ⟨⟨front, back, rfl, hfront, hback⟩, hhead, hlast⟩
    cases inner with
    | nil =>
      -- there are only quote characters
      have hall : (front ++ back).all isQuote = true := by
        rw [List.all_append, hfront, hback, Bool.and_self]
      have hdrop : (front ++ back ++ []).dropWhile isQuote = [] := dropWhile_isQuote hall nofun
      rw [List.append_nil] at hdrop
      rw [List.nil_append, hdrop]
      rfl
    | cons c inner =>
      have hdrop : (front ++ (c :: inner ++ back)).dropWhile isQuote = c :: inner ++ back :=
        dropWhile_isQuote hfront hhead
      rw [hdrop]
      exact dropQuotes_append hback hlast
  · rintro rfl
    have hcs := List.takeWhile_append_dropWhile (p := isQuote) (l := cs)
    refine ⟨⟨cs.takeWhile isQuote, ((cs.dropWhile isQuote).reverse.takeWhile isQuote).reverse, ?_,
      List.all_takeWhile, ?_⟩, fun c hc => ?_, fun c hc => ?_⟩
    · rw [← eq_dropQuotes_append, hcs]
    · rw [List.all_reverse]
      exact List.all_takeWhile
    · have hhead : (cs.dropWhile isQuote).head? = some c := by
        rw [eq_dropQuotes_append (cs.dropWhile isQuote), List.head?_append, hc]
        rfl
      exact isQuote_head?_dropWhile hhead
    · rw [Text.dropQuotes, List.getLast?_reverse] at hc
      exact isQuote_head?_dropWhile hc

/-- An alias is taken without the blanks and the quote characters around it. -/
theorem unquoteAlias_eq_iff {label inner : String} :
    unquoteAlias label = inner ↔ Unquotes (Text.trim label.toList) inner.toList := by
  have hlabel := unquoteAlias_eq label.toList
  rw [String.ofList_toList] at hlabel
  rw [unquotes_iff, hlabel, ← String.toList_inj, String.toList_ofList]

namespace Field

/-! ### Aliases around a field -/

/-- How many aliases stand around a field. -/
def levels : Field → Nat
  | aliased field _ => field.levels + 1
  | _ => 0

/-- A field under an alias, if there is one. -/
def under (base : Field) (label : Option String) : Field :=
  label.elim base fun l => aliased base (unquoteAlias l)

section Under

variable {base : Field}

theorem core_of_levels (h : base.levels = 0) : base.core = base := by
  cases base with
  | aliased field label => cases h
  | _ => rfl

theorem levels_under_le (h : base.levels = 0) (label : Option String) :
    (base.under label).levels ≤ 1 := by
  cases label with
  | none => exact Nat.le_trans (Nat.le_of_eq h) (Nat.zero_le 1)
  | some l => exact Nat.le_of_eq (congrArg (· + 1) h)

/-- A new alias takes the place of the one that there was. -/
theorem withAlias_under (h : base.levels = 0) (label : Option String) (l : String) :
    (base.under label).withAlias l = base.under (some l) := by
  rw [withAlias_eq]
  cases label with
  | none => exact congrArg (aliased · (unquoteAlias l)) (core_of_levels h)
  | some _ => rfl

/-- **Of several aliases the last one stays.** -/
theorem foldl_withAlias (h : base.levels = 0) (labels more : List String) :
    more.foldl withAlias (base.under labels.getLast?) = base.under (labels ++ more).getLast? := by
  induction more generalizing labels with
  | nil => rw [List.append_nil, List.foldl_nil]
  | cons l more ih =>
    have hnext := ih (labels ++ [l])
    rw [List.getLast?_concat, List.append_assoc, List.singleton_append] at hnext
    rw [List.foldl_cons, withAlias_under h, hnext]

end Under

/-! ### Cutting a text at its separators -/

/-- A text is divided by its last separator, with something on both sides. -/
structure Separates (cs before found after : List Char) : Prop where
  text : cs = before ++ (found ++ after)
  word : Text.fold found = aliasWord
  /-- The separator does not begin again behind its first character. -/
  last : Text.holdsWord aliasWord (found ++ after).tail = false
  front : Text.allBlank before = false
  back : Text.allBlank after = false

/-- A text that is cut at every separator that can be used, from the last one on: the body that is
left, and the labels in the order in which they are attached to it. -/
inductive Cuts : List Char → List Char → List (List Char) → Prop where
  | whole {cs : List Char}
    (h : ∀ before found after, ¬Separates (Text.trim cs) before found after) :
    Cuts cs (Text.trim cs) []
  | cut {cs before found after body : List Char} {labels : List (List Char)}
    (h : Separates (Text.trim cs) before found after)
    (hbody : Cuts (Text.trim before) body labels) :
    Cuts cs body (labels ++ [Text.trim after])

section Cuts

variable {cs before found after body : List Char} {labels : List (List Char)}

theorem cutLast_of_separates (h : Separates cs before found after) :
    Text.cutLast aliasWord cs = some (before, after) := by
  rw [h.text]
  exact Text.cutLast_of_last (by decide) h.word
    ((Text.cutLast_eq_none_iff (by decide)).mpr h.last) before

theorem splitAlias_of_separates (h : Separates cs before found after) :
    splitAlias cs = some (Text.trim before, Text.trim after) := by
  rw [splitAlias, cutLast_of_separates h]
  simp only [h.front, h.back, Bool.or_self, Bool.false_eq_true, if_false]

/-- Where a text is divided is what `splitAlias` finds. -/
theorem exists_separates {body label : List Char} (h : splitAlias cs = some (body, label)) :
    ∃ before found after, Separates cs before found after ∧ Text.trim before = body ∧
      Text.trim after = label := by
  rw [splitAlias] at h
  split at h
  · cases h
  · rename_i before after hcut
    split at h
    · cases h
    · rename_i hblank
      cases h
      obtain ⟨found, htext, hword, hlast⟩ := Text.eq_of_cutLast hcut
      obtain ⟨hfront, hback⟩ := Bool.or_eq_false_iff.mp (Bool.of_not_eq_true hblank)
      exact ⟨before, found, after,
        ⟨htext, hword, (Text.cutLast_eq_none_iff (by decide)).mp hlast, hfront, hback⟩, rfl, rfl⟩

/-- A text that is not divided has no alias. -/
theorem splitAlias_of_not_separates
    (h : ∀ before found after, ¬Separates cs before found after) : splitAlias cs = none := by
  cases hsplit : splitAlias cs with
  | none => rfl
  | some cut =>
    obtain ⟨before, found, after, hseparates, -, -⟩ := exists_separates hsplit
    exact absurd hseparates (h before found after)

/-- Every text is cut in some way. -/
theorem exists_cuts (cs : List Char) : ∃ body labels, Cuts cs body labels := by
  induction cs using aliasInduction with
  | whole cs hsplit =>
    refine ⟨_, _, .whole fun before found after h => ?_⟩
    rw [splitAlias_of_separates h] at hsplit
    cases hsplit
  | cut cs body label hsplit ih =>
    obtain ⟨before, found, after, hseparates, rfl, rfl⟩ := exists_separates hsplit
    obtain ⟨body, labels, hbody⟩ := ih
    exact ⟨_, _, .cut hseparates hbody⟩

/-- And in one way only, since the last separator is where it is. -/
theorem cuts_unique {body' : List Char} {labels' : List (List Char)} (h : Cuts cs body labels)
    (h' : Cuts cs body' labels') : body' = body ∧ labels' = labels := by
  induction h generalizing body' labels' with
  | whole hwhole =>
    cases h' with
    | whole => exact ⟨rfl, rfl⟩
    | cut hcut => exact absurd hcut (hwhole _ _ _)
  | cut hcut hbody ih =>
    cases h' with
    | whole hwhole => exact absurd hcut (hwhole _ _ _)
    | cut hcut' hbody' =>
      have hsame := (cutLast_of_separates hcut).symm.trans (cutLast_of_separates hcut')
      cases hsame
      obtain ⟨rfl, rfl⟩ := ih hbody'
      exact ⟨rfl, rfl⟩

/-- Nothing is left to cut at. -/
theorem holdsWord_of_cuts (h : Cuts cs body labels) : Text.holdsWord aliasWord body = false := by
  induction h with
  | whole hwhole => exact splitAlias_trim_eq_none_iff.mp (splitAlias_of_not_separates hwhole)
  | cut hcut hbody ih => exact ih

/-- **Each cut takes five characters at least**: the separator and a label. -/
theorem length_of_cuts (h : Cuts cs body labels) :
    body.length + 5 * labels.length ≤ cs.length := by
  induction h with
  | @whole cs hwhole => exact Text.length_trim_le cs
  | @cut cs before found after body labels hcut hbody ih =>
    have htext := congrArg List.length hcut.text
    have hword : found.length = 4 := by
      have hlength := congrArg List.length hcut.word
      rw [Text.fold, List.length_map] at hlength
      exact hlength.trans (by decide)
    have hafter : 0 < after.length := by
      refine List.length_pos_of_ne_nil fun hnil => ?_
      have hblank := hcut.back
      rw [hnil] at hblank
      cases hblank
    have htrim := Text.length_trim_le cs
    have hbefore := Text.length_trim_le before
    rw [List.length_append, List.length_append] at htext
    rw [List.length_append, List.length_singleton]
    omega

/-! ### The field that a text names -/

/-- The field that a body names: all columns, an expression or a column. -/
def ofBody (body : List Char) : Field :=
  if body = ['*'] then star
  else if isExpressionText body then expression (String.ofList body)
  else column (String.ofList body)

theorem levels_ofBody (body : List Char) : (ofBody body).levels = 0 := by
  unfold ofBody
  split
  · rfl
  · split <;> rfl

/-- **A text names its body under its last label.** -/
theorem ofChars_of_cuts (h : Cuts cs body labels) :
    ofChars cs = (ofBody body).under (labels.map String.ofList).getLast? := by
  induction h with
  | @whole cs hwhole =>
    rw [ofChars_of_splitAlias_eq_none (splitAlias_of_not_separates hwhole), ← isExpressionText_trim]
    rfl
  | @cut cs before found after body labels hcut hbody ih =>
    rw [ofChars_of_splitAlias (splitAlias_of_separates hcut), ih, withAlias_under (levels_ofBody _),
      List.map_append, List.map_singleton, List.getLast?_concat]

end Cuts

/-! ### Where fields come from -/

/-- Where a field comes from. -/
inductive Source where
  /-- A text, which is classified. -/
  | text (s : String)
  /-- The name of a column. -/
  | column (name : String)
  /-- An expression, which is written as it is. -/
  | raw (sql : String)

/-- The field that comes from there. -/
def Source.field : Source → Field
  | text s => parse s
  | column name => ofColumn name
  | raw sql => expression sql

/-- What a source gives: a field without an alias, and the aliases that are attached to it.  Only a
text attaches any. -/
inductive Source.Gives : Source → Field → List String → Prop where
  | text {s : String} {body : List Char} {labels : List (List Char)}
    (h : Cuts s.toList body labels) :
    Gives (.text s) (ofBody body) (labels.map String.ofList)
  | column (name : String) : Gives (.column name) (ofColumn name) []
  | raw (sql : String) : Gives (.raw sql) (expression sql) []

theorem Source.exists_gives (source : Source) : ∃ base labels, source.Gives base labels := by
  cases source with
  | text s =>
    obtain ⟨body, labels, h⟩ := exists_cuts s.toList
    exact ⟨_, _, .text h⟩
  | column name => exact ⟨_, _, .column name⟩
  | raw sql => exact ⟨_, _, .raw sql⟩

/-- The field of a source is under the last alias that the source attaches. -/
theorem Source.field_of_gives {source : Source} {base : Field} {labels : List String}
    (h : source.Gives base labels) :
    base.levels = 0 ∧ source.field = base.under labels.getLast? := by
  cases h with
  | text h => exact ⟨levels_ofBody _, ofChars_of_cuts h⟩
  | column name => exact ⟨rfl, rfl⟩
  | raw sql => exact ⟨rfl, rfl⟩

/-! ### The normal form -/

/-- The field of a source with further aliases is in normal form. -/
structure Source.IsNormal (source : Source) (more : List String) : Prop where
  /-- There is one alias at most. -/
  levels : (more.foldl withAlias source.field).levels ≤ 1
  /-- It stands around a field without alias, and is the last one that was attached. -/
  last : ∃ base labels, source.Gives base labels ∧ base.levels = 0 ∧
    more.foldl withAlias source.field = base.under (labels ++ more).getLast?

theorem Source.isNormal (source : Source) (more : List String) : source.IsNormal more := by
  obtain ⟨base, labels, h⟩ := source.exists_gives
  obtain ⟨hlevels, hfield⟩ := source.field_of_gives h
  have hfold := foldl_withAlias hlevels labels more
  rw [← hfield] at hfold
  refine ⟨?_, base, labels, h, hlevels, hfold⟩
  rw [hfold]
  exact levels_under_le hlevels _

/-- How a text is cut: in one way, at all separators, and in a number of steps that its length
bounds. -/
structure IsCut (cs body : List Char) (labels : List (List Char)) : Prop where
  cuts : Cuts cs body labels
  unique : ∀ body' labels', Cuts cs body' labels' → body' = body ∧ labels' = labels
  noneLeft : Text.holdsWord aliasWord body = false
  steps : body.length + 5 * labels.length ≤ cs.length

theorem exists_isCut (cs : List Char) : ∃ body labels, IsCut cs body labels := by
  obtain ⟨body, labels, h⟩ := exists_cuts cs
  exact ⟨body, labels, h, fun _ _ => cuts_unique h, holdsWord_of_cuts h, length_of_cuts h⟩

/-- Where the bytes of a text are cut at a word: at offsets between two characters, and into the
parts that its characters are cut into. -/
structure CutsBetween (word : List Char) (s : String) : Prop where
  boundaries : ∀ p, Text.StandsAt word s.toList p → (⟨p⟩ : String.Pos.Raw).IsValid s ∧
    (⟨p + word.length⟩ : String.Pos.Raw).IsValid s
  parts : ∀ before after, Text.cutLast word s.toList = some (before, after) ↔
    ∃ p, Text.CutsAt word s.toList p before after

theorem cutsBetween_aliasWord (s : String) : CutsBetween aliasWord s := by
  have hall : aliasWord.all (fun c => c.toNat < 128) = true := by decide
  have hascii : ∀ c ∈ aliasWord, c.toNat < 128 :=
    fun c hc => of_decide_eq_true (List.all_eq_true.mp hall c hc)
  exact ⟨fun p h => Text.isValid_of_standsAt hascii (by decide) h,
    fun before after => Text.cutLast_iff_cutsAt hascii (by decide)⟩

/-- **Fields have one alias at most, the last one attached.**  However many aliases are attached to
a field that a text, a name or an expression gives, there is one around a field without any, and
it is the last one, without the blanks and quote characters around it.  A text attaches the labels
behind its separators, the last one last, to the body that is left when it has been cut at all of
them, in a number of steps that its length bounds; and the offsets of its bytes at which it is cut
are between two characters. -/
theorem alias_normal_form :
    (∀ (source : Source) (more : List String), source.IsNormal more) ∧
    (∀ label inner : String, unquoteAlias label = inner ↔
      Unquotes (Text.trim label.toList) inner.toList) ∧
    (∀ s : String, ∃ body labels, IsCut s.toList body labels) ∧
    ∀ s : String, CutsBetween aliasWord s :=
  ⟨Source.isNormal, fun _ _ => unquoteAlias_eq_iff, fun s => exists_isCut s.toList,
    cutsBetween_aliasWord⟩

end Field

end FluentSql
