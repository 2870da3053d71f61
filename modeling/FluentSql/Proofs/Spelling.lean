import FluentSql.Proofs.Counting
import FluentSql.Proofs.Nesting
import FluentSql.Proofs.Projection

/-!
# Fields in one text and fields in a list

Several fields may be given as a list of texts, or as one text with commas.  The text is cut at
every comma, and unless ` as ` stands anywhere in it all its blanks are dropped first: then the
fields have the SQL that those of the list have, but for the blanks.  So the two forms have the same
SQL exactly if there is ` as ` in the text, be it in another field, or if there is no blank in the
SQL; and a builder tells the two forms apart only if their SQL differs.

## Main definitions

* `Field.listing` — the texts of several fields in one.
* `withoutBlanks` — a text without its blanks.

## Main results

* `Field.parseList_listing_of_aliased`, `Field.parseList_listing_of_unaliased` — the fields that
  the one text names.
* `Field.renderEach_dropBlanks` — without the blanks of a text its SQL is without blanks.
* `Field.listing_agrees_iff` — **when the two forms agree.**
* `Field.listing_differs` — fields that the two forms do not have the same SQL for.
-/

namespace FluentSql

/-! ### Without blanks -/

/-- The text without its blanks. -/
def withoutBlanks (s : String) : String := String.ofList (Text.dropBlanks s.toList)

@[simp] theorem toList_withoutBlanks (s : String) :
    (withoutBlanks s).toList = Text.dropBlanks s.toList := String.toList_ofList

namespace Text

variable {c q : Char} {word : List Char}

theorem dropBlanks_intercalate (hc : isBlank c = false) (parts : List (List Char)) :
    dropBlanks ([c].intercalate parts) = [c].intercalate (parts.map dropBlanks) := by
  induction parts with
  | nil => rfl
  | cons part parts ih =>
    cases parts with
    | nil => rw [List.map_singleton, List.intercalate_singleton, List.intercalate_singleton]
    | cons next rest =>
      rw [List.intercalate_cons_cons, dropBlanks_append, dropBlanks_append, ih, List.map_cons,
        List.map_cons, List.map_cons, List.intercalate_cons_cons, dropBlanks_cons hc]
      rfl

theorem dropBlanks_doubled (hq : isBlank q = false) (cs : List Char) :
    dropBlanks (doubled q cs) = doubled q (dropBlanks cs) := by
  induction cs with
  | nil => rfl
  | cons c cs ih =>
    by_cases hc : c = q
    · subst hc
      rw [doubled, if_pos rfl, dropBlanks_cons hq, dropBlanks_cons hq, dropBlanks_cons hq, doubled,
        if_pos rfl, ih]
    · rw [doubled, if_neg hc]
      by_cases hblank : isBlank c = true
      · rw [dropBlanks_cons_of_isBlank hblank, dropBlanks_cons_of_isBlank hblank, ih]
      · have hkept : isBlank c = false := Bool.of_not_eq_true hblank
        rw [dropBlanks_cons hkept, dropBlanks_cons hkept, doubled, if_neg hc, ih]

theorem dropBlanks_quoted (hq : isBlank q = false) (cs : List Char) :
    dropBlanks (quoted q cs) = quoted q (dropBlanks cs) := by
  rw [quoted, dropBlanks_cons hq, dropBlanks_append, dropBlanks_doubled hq, dropBlanks_cons hq,
    quoted]
  rfl

/-- A word with a character that no other one has for its lower-case form stands in no text without
that character. -/
theorem not_holdsWord_of_notMem {c : Char} (hlower : ∀ d : Char, d.toLower = c → d = c)
    {cs : List Char} (hword : c ∈ word) (h : c ∉ cs) : holdsWord word cs = false := by
  rw [Bool.eq_false_iff]
  intro hholds
  obtain ⟨before, found, after, rfl, rfl⟩ := exists_of_holdsWord hholds
  obtain ⟨d, hd, heq⟩ := List.mem_map.mp hword
  rw [hlower d heq] at hd
  exact h (List.mem_append_left _ (List.mem_append_right _ hd))

/-- A word with a space in it stands in no text without spaces. -/
theorem not_holdsWord_of_space_notMem {cs : List Char} (hword : ' ' ∈ word) (h : ' ' ∉ cs) :
    holdsWord word cs = false :=
  not_holdsWord_of_notMem (fun _ => eq_space_of_toLower) hword h

theorem not_holdsWord_dropBlanks (hword : ' ' ∈ word) (cs : List Char) :
    holdsWord word (dropBlanks cs) = false :=
  not_holdsWord_of_space_notMem hword fun h =>
    absurd (isBlank_of_mem_dropBlanks h) (by decide)

/-- Each of several texts is part of what they make together. -/
theorem isInfix_intercalate {separator part : List Char} {parts : List (List Char)}
    (h : part ∈ parts) : part <:+: separator.intercalate parts := by
  induction parts with
  | nil => cases h
  | cons first parts ih =>
    cases parts with
    | nil =>
      obtain rfl := List.mem_singleton.mp h
      exact ⟨[], [], by rw [List.nil_append, List.append_nil, List.intercalate_singleton]⟩
    | cons next rest =>
      rw [List.intercalate_cons_cons]
      rcases List.mem_cons.mp h with rfl | h
      · rw [List.append_assoc]
        exact (List.prefix_append part _).isInfix
      · exact (ih h).trans (List.suffix_append _ _).isInfix

/-- Texts with separators between them are the same without their blanks only if they have none. -/
theorem intercalate_map_dropBlanks_eq_iff {separator : List Char} {parts : List (List Char)} :
    separator.intercalate (parts.map dropBlanks) = separator.intercalate parts ↔
      ∀ part ∈ parts, ∀ c ∈ part, isBlank c = false := by
  have hkept : ∀ part : List Char, dropBlanks part = part ↔ ∀ c ∈ part, isBlank c = false := by
    intro part
    rw [dropBlanks, List.filter_eq_self]
    simp
  constructor
  · intro heq
    have hnone : (parts.map dropBlanks).flatten.countP isBlank = 0 := by
      rw [List.countP_eq_zero]
      intro c hc
      obtain ⟨_, hpart, hmem⟩ := List.mem_flatten.mp hc
      obtain ⟨part, -, rfl⟩ := List.mem_map.mp hpart
      simp [isBlank_of_mem_dropBlanks hmem]
    -- the separators are the same on both sides, so the parts have as many blanks as these
    have hcount := congrArg (List.countP isBlank) heq
    rw [countP_intercalate, countP_intercalate, List.length_map, hnone] at hcount
    have hzero : parts.flatten.countP isBlank = 0 := by omega
    rw [List.countP_eq_zero] at hzero
    intro part hpart c hc
    exact Bool.of_not_eq_true (hzero c (List.mem_flatten_of_mem hpart hc))
  · intro h
    rw [List.map_congr_left fun part hpart => (hkept part).mpr (h part hpart), List.map_id']

end Text

theorem intercalate_withoutBlanks_eq_iff {sqls : List String} :
    ", ".intercalate (sqls.map withoutBlanks) = ", ".intercalate sqls ↔
      ∀ sql ∈ sqls, ∀ c ∈ sql.toList, isBlank c = false := by
  have hchars : (sqls.map withoutBlanks).map String.toList =
      (sqls.map String.toList).map Text.dropBlanks := by
    simp [Function.comp_def]
  rw [← String.toList_inj, String.toList_intercalate, String.toList_intercalate, hchars,
    Text.intercalate_map_dropBlanks_eq_iff, List.forall_mem_map]

/-- A name without its blanks is quoted as the name, without blanks. -/
theorem quoteQualified_withoutBlanks (name : String) :
    quoteQualified (withoutBlanks name) = withoutBlanks (quoteQualified name) := by
  have hpoint : ∀ c, isBlank c = true → (c == '.') = false := by
    intro c hc
    rw [beq_eq_false_iff_ne]
    rintro rfl
    exact absurd hc (by decide)
  have hquote : isBlank backtick = false := by decide
  rw [← String.toList_inj, toList_withoutBlanks, toList_quoteQualified, toList_quoteQualified,
    toList_withoutBlanks, Text.pieces_dropBlanks hpoint, Text.dropBlanks_intercalate (by decide),
    List.map_map, List.map_map]
  congr 2
  funext part
  show Text.quoted backtick (Text.trim (Text.dropBlanks part)) =
    Text.dropBlanks (Text.quoted backtick (Text.trim part))
  rw [Text.dropBlanks_quoted hquote, Text.dropBlanks_trim, Text.trim_dropBlanks]

namespace Field

variable {cs : List Char}

theorem isExpressionText_dropBlanks (cs : List Char) :
    isExpressionText (Text.dropBlanks cs) = isExpressionText cs := by
  rw [Bool.eq_iff_iff, isExpressionText_iff, isExpressionText_iff, Text.mem_dropBlanks (by decide),
    Text.mem_dropBlanks (by decide), Text.mem_dropBlanks (by decide)]

/-- **Without the blanks of a text its SQL is without blanks**, and otherwise what it was. -/
theorem render_ofChars_dropBlanks (hblank : Text.allBlank cs = false)
    (hword : Text.holdsWord aliasWord cs = false) :
    (ofChars (Text.dropBlanks cs)).render = (ofChars cs).render.map withoutBlanks := by
  have hword' : Text.holdsWord aliasWord (Text.dropBlanks cs) = false :=
    Text.not_holdsWord_dropBlanks (by decide) cs
  have hblank' : Text.allBlank (Text.dropBlanks cs) = false := by
    obtain ⟨c, hc, hkept⟩ := List.all_eq_false.mp hblank
    rw [Bool.not_eq_true] at hkept
    exact Text.allBlank_eq_false_of_mem ((Text.mem_dropBlanks hkept).mpr hc) hkept
  have htext : String.ofList (Text.dropBlanks cs) =
      withoutBlanks (String.ofList (Text.trim cs)) := by
    rw [withoutBlanks, String.toList_ofList, Text.dropBlanks_trim]
  rw [render_ofChars (splitAlias_trim_eq_none hword'),
    render_ofChars (splitAlias_trim_eq_none hword), isExpressionText_dropBlanks, hblank', hblank,
    Text.trim_dropBlanks, htext]
  split
  · rfl
  · rw [quoteQualified_withoutBlanks]
    rfl

variable {texts : List String}

theorem renderEach_dropBlanks (hblank : ∀ text ∈ texts, isBlankText text = false)
    (hword : ∀ text ∈ texts, Text.holdsWord aliasWord text.toList = false) :
    renderEach (texts.map fun text => ofChars (Text.dropBlanks text.toList)) =
      (renderEach (texts.map parse)).map (List.map withoutBlanks) := by
  induction texts with
  | nil => rfl
  | cons text texts ih =>
    obtain ⟨htext, htexts⟩ := List.forall_mem_cons.mp hblank
    obtain ⟨hfree, hfrees⟩ := List.forall_mem_cons.mp hword
    rw [List.map_cons, List.map_cons, renderEach, renderEach, render_ofChars_dropBlanks htext hfree,
      ih htexts hfrees, parse]
    cases (ofChars text.toList).render with
    | error e => rfl
    | ok sql => cases renderEach (texts.map parse) <;> rfl

/-! ### Several fields in one text -/

/-- The texts of several fields in one, with commas between them. -/
def listing (texts : List String) : String := ", ".intercalate texts

theorem toList_listing (texts : List String) :
    (listing texts).toList = [',', ' '].intercalate (texts.map String.toList) := by
  rw [listing, String.toList_intercalate]
  rfl

theorem comma_mem_listing (htwo : 2 ≤ texts.length) : ',' ∈ (listing texts).toList := by
  rw [toList_listing]
  match texts, htwo with
  | text :: next :: rest, _ =>
    rw [List.map_cons, List.map_cons, List.intercalate_cons_cons]
    exact List.mem_append_left _ (List.mem_append_right _ List.mem_cons_self)

theorem isBlankText_listing (htwo : 2 ≤ texts.length) : isBlankText (listing texts) = false :=
  Text.allBlank_eq_false_of_mem (comma_mem_listing htwo) (by decide)

/-- What is made of the pieces of the one text is what is made of the pieces of each. -/
theorem map_items_listing {f : List Char → Field} (hf : ∀ cs, f (' ' :: cs) = f cs)
    (htwo : 2 ≤ texts.length) :
    (items (listing texts).toList).map f =
      texts.flatMap fun text => (items text.toList).map f := by
  have hne : texts.map String.toList ≠ [] := by
    rw [ne_eq, List.map_eq_nil_iff]
    rintro rfl
    exact absurd htwo (by decide)
  rw [toList_listing, items, Text.map_pieces_intercalate hf (by decide) (by decide) hne,
    List.flatMap_map]
  rfl

/-- With ` as ` anywhere in it the one text names what the texts name. -/
theorem parseList_listing_of_aliased (htwo : 2 ≤ texts.length)
    (h : Text.holdsWord aliasWord (listing texts).toList = true) :
    parseList (listing texts) = texts.flatMap fun text => (items text.toList).map ofChars := by
  have hfront : ∀ cs, ofChars (' ' :: cs) = ofChars cs := by
    intro cs
    rw [← ofChars_trim (' ' :: cs), ← ofChars_trim cs]
    rfl
  rw [parseList_of_aliased (isBlankText_listing htwo) h, map_items_listing hfront htwo]

/-- Without it the one text names what the texts name without their blanks. -/
theorem parseList_listing_of_unaliased (htwo : 2 ≤ texts.length)
    (h : Text.holdsWord aliasWord (listing texts).toList = false) :
    parseList (listing texts) =
      texts.flatMap fun text => (items text.toList).map fun item =>
        ofChars (Text.dropBlanks item) := by
  have hfront : ∀ cs, ofChars (Text.dropBlanks (' ' :: cs)) = ofChars (Text.dropBlanks cs) :=
    fun cs => by rw [Text.dropBlanks_cons_of_isBlank (by decide)]
  have hcomma : (listing texts).toList.contains ',' = true :=
    List.contains_iff_mem.mpr (comma_mem_listing htwo)
  have hsplit : splitItems (listing texts).toList =
      (items (listing texts).toList).map Text.dropBlanks := by
    rw [splitItems, if_pos hcomma, h, if_neg Bool.false_ne_true]
    rfl
  rw [parseList, isBlankText_listing htwo, if_neg Bool.false_ne_true, hsplit, List.map_map,
    ← map_items_listing hfront htwo]
  rfl

/-- A text without commas is one field of the one text. -/
theorem flatMap_items (hcomma : ∀ text ∈ texts, ',' ∉ text.toList) (f : List Char → Field) :
    (texts.flatMap fun text => (items text.toList).map f) =
      texts.map fun text => f text.toList := by
  induction texts with
  | nil => rfl
  | cons text texts ih =>
    obtain ⟨htext, htexts⟩ := List.forall_mem_cons.mp hcomma
    rw [List.flatMap_cons, items_eq_singleton htext, ih htexts]
    rfl

theorem parseList_listing_eq_map_parse (htwo : 2 ≤ texts.length)
    (hcomma : ∀ text ∈ texts, ',' ∉ text.toList)
    (h : Text.holdsWord aliasWord (listing texts).toList = true) :
    parseList (listing texts) = texts.map parse := by
  rw [parseList_listing_of_aliased htwo h, flatMap_items hcomma]
  rfl

theorem parseList_listing_eq_map_dropBlanks (htwo : 2 ≤ texts.length)
    (hcomma : ∀ text ∈ texts, ',' ∉ text.toList)
    (h : Text.holdsWord aliasWord (listing texts).toList = false) :
    parseList (listing texts) = texts.map fun text => ofChars (Text.dropBlanks text.toList) := by
  rw [parseList_listing_of_unaliased htwo h]
  exact flatMap_items hcomma fun item => ofChars (Text.dropBlanks item)

theorem length_parseList_listing (htwo : 2 ≤ texts.length)
    (hcomma : ∀ text ∈ texts, ',' ∉ text.toList) :
    (parseList (listing texts)).length = texts.length := by
  cases h : Text.holdsWord aliasWord (listing texts).toList with
  | true => rw [parseList_listing_eq_map_parse htwo hcomma h, List.length_map]
  | false => rw [parseList_listing_eq_map_dropBlanks htwo hcomma h, List.length_map]

theorem renderList_map {f : String → Field} {sqls : List String} (htwo : 2 ≤ texts.length)
    (h : renderEach (texts.map f) = .ok sqls) :
    renderList (texts.map f) = .ok (", ".intercalate sqls) := by
  have hne : texts.map f ≠ [] := by
    rw [ne_eq, List.map_eq_nil_iff]
    rintro rfl
    exact absurd htwo (by decide)
  rw [renderList_of_ne_nil hne, h]
  rfl

/-- Without ` as ` the one text has the SQL of the list, without its blanks. -/
theorem renderList_listing_of_unaliased {sqls : List String} (htwo : 2 ≤ texts.length)
    (hblank : ∀ text ∈ texts, isBlankText text = false)
    (hcomma : ∀ text ∈ texts, ',' ∉ text.toList)
    (h : Text.holdsWord aliasWord (listing texts).toList = false)
    (hsqls : renderEach (texts.map parse) = .ok sqls) :
    renderList (parseList (listing texts)) = .ok (", ".intercalate (sqls.map withoutBlanks)) := by
  have hfree : ∀ text ∈ texts, Text.holdsWord aliasWord text.toList = false := by
    intro text htext
    refine Text.not_holdsWord_of_isInfix ?_ h
    rw [toList_listing]
    exact Text.isInfix_intercalate (List.mem_map_of_mem htext)
  rw [parseList_listing_eq_map_dropBlanks htwo hcomma h]
  refine renderList_map htwo ?_
  rw [renderEach_dropBlanks hblank hfree, hsqls]
  rfl

/-- Of two lists of several fields neither is all columns alone. -/
theorem eq_star_iff_of_length {fields fields' : List Field} (h : 2 ≤ fields.length)
    (h' : 2 ≤ fields'.length) : fields = [.star] ↔ fields' = [.star] := by
  constructor
  · rintro rfl
    exact absurd h (by decide)
  · rintro rfl
    exact absurd h' (by decide)

/-- **When the two forms agree.**  Several texts, none of which is blank or holds a comma, name the
same fields in a list as in one text if ` as ` stands anywhere in this.  Otherwise the one text has
their SQL without its blanks.  So both have the same SQL exactly if there is ` as ` or no field has
a blank in its SQL; and then a builder does not tell them apart, in a SELECT, in a grouping, or in
a section that repeats the fields. -/
theorem listing_agrees_iff (htwo : 2 ≤ texts.length)
    (hblank : ∀ text ∈ texts, isBlankText text = false)
    (hcomma : ∀ text ∈ texts, ',' ∉ text.toList) :
    ∃ sqls, renderEach (texts.map parse) = .ok sqls ∧
      renderList (texts.map parse) = .ok (", ".intercalate sqls) ∧
      (Text.holdsWord aliasWord (listing texts).toList = true →
        parseList (listing texts) = texts.map parse) ∧
      (Text.holdsWord aliasWord (listing texts).toList = false →
        renderList (parseList (listing texts)) = .ok (", ".intercalate (sqls.map withoutBlanks))) ∧
      (renderList (parseList (listing texts)) = renderList (texts.map parse) ↔
        Text.holdsWord aliasWord (listing texts).toList = true ∨
          ∀ sql ∈ sqls, ∀ c ∈ sql.toList, isBlank c = false) ∧
      (renderList (parseList (listing texts)) = renderList (texts.map parse) →
        ∀ (b : Builder) (vs vs' : List Verb),
          List.Forall₂ (Verb.Respelled (parseList (listing texts)) (texts.map parse)) vs vs' →
          Builder.Agrees (b.runAll vs) (b.runAll vs')) := by
  obtain ⟨sqls, hsqls⟩ := exists_renderEach_parse hblank
  have hlist : renderList (texts.map parse) = .ok (", ".intercalate sqls) :=
    renderList_map htwo hsqls
  have hlength : (parseList (listing texts)).length = texts.length :=
    length_parseList_listing htwo hcomma
  refine ⟨sqls, hsqls, hlist, parseList_listing_eq_map_parse htwo hcomma,
    fun hword => renderList_listing_of_unaliased htwo hblank hcomma hword hsqls, ?_,
    fun hsame b vs vs' hvs => ?_⟩
  · cases hword : Text.holdsWord aliasWord (listing texts).toList with
    | true =>
      rw [parseList_listing_eq_map_parse htwo hcomma hword]
      exact iff_of_true rfl (Or.inl rfl)
    | false =>
      rw [renderList_listing_of_unaliased htwo hblank hcomma hword hsqls, hlist, Except.ok.injEq,
        intercalate_withoutBlanks_eq_iff, or_iff_right Bool.false_ne_true]
  · have hempty : (parseList (listing texts)).isEmpty = (texts.map parse).isEmpty := by
      rw [Bool.eq_iff_iff, List.isEmpty_iff_length_eq_zero, List.isEmpty_iff_length_eq_zero,
        hlength, List.length_map]
    refine Builder.agrees_respelled ⟨hempty, hsame⟩ (eq_star_iff_of_length ?_ ?_) b hvs
    · rw [hlength]
      exact htwo
    · rw [List.length_map]
      exact htwo

/-- A field under an alias of two words beside a column. -/
def topPrice : List String := ["id", "MAX(price) AS Top price"]

/-- They may be given in one text to a SELECT that is repeated. -/
theorem listing_agrees_topPrice :
    (2 ≤ topPrice.length ∧ (∀ text ∈ topPrice, isBlankText text = false) ∧
      ∀ text ∈ topPrice, ',' ∉ text.toList) ∧
    parseList (listing topPrice) = topPrice.map parse ∧
    Builder.Agrees
      ((Builder.new .sqlite .default).runAll
        [.select (.named "items") (parseList (listing topPrice)),
          .combineSelect (.union false) (.named "offers")])
      ((Builder.new .sqlite .default).runAll
        [.select (.named "items") (topPrice.map parse),
          .combineSelect (.union false) (.named "offers")]) := by
  have htwo : 2 ≤ topPrice.length := by decide
  have hblank : ∀ text ∈ topPrice, isBlankText text = false := by decide
  have hcomma : ∀ text ∈ topPrice, ',' ∉ text.toList := by decide
  obtain ⟨_, -, -, haliased, -, hiff, hagrees⟩ := listing_agrees_iff htwo hblank hcomma
  have hword : Text.holdsWord aliasWord (listing topPrice).toList = true := by decide +kernel
  exact ⟨⟨htwo, hblank, hcomma⟩, haliased hword, hagrees (hiff.mpr (Or.inl hword)) _ _ _
    (.cons (.select _ false) (.cons (.same _) .nil))⟩

/-- A product has its blanks in a list and loses them in one text; and a call with several
arguments is taken apart in one text. -/
theorem listing_differs :
    (∀ text ∈ ["price * 2", "MAX(a,b,c)", "name"], trimmed text = text ∧ text ≠ "" ∧
      text.toList.any isQuote = false ∧ Text.Balanced text.toList ∧
      Text.OnlyInside [','] text.toList) ∧
    renderList (parseList (listing ["price * 2", "name"])) = .ok "price*2, \x60name\x60" ∧
    renderList (["price * 2", "name"].map parse) = .ok "price * 2, \x60name\x60" ∧
    renderList (parseList (listing ["MAX(a,b,c)", "name"])) =
      .ok "MAX(a, \x60b\x60, c), \x60name\x60" ∧
    renderList (["MAX(a,b,c)", "name"].map parse) = .ok "MAX(a,b,c), \x60name\x60" := by
  have hproduct : parseList (listing ["price * 2", "name"]) =
      [expression "price*2", column "name"] := by decide +kernel
  have hproduct' : ["price * 2", "name"].map parse =
      [expression "price * 2", column "name"] := by decide +kernel
  have hcall : parseList (listing ["MAX(a,b,c)", "name"]) =
      [expression "MAX(a", column "b", expression "c)", column "name"] := by decide +kernel
  have hcall' : ["MAX(a,b,c)", "name"].map parse =
      [expression "MAX(a,b,c)", column "name"] := by decide +kernel
  rw [hproduct, hproduct', hcall, hcall']
  exact ⟨by decide +kernel, rfl, rfl, rfl, rfl⟩

end Field

end FluentSql
