import FluentSql.Proofs.Aliases

/-!
# Aliases and parentheses

Where the alias of a field is looked for, parentheses are not looked at: in `CAST(price AS CHAR)`
the text is cut within the call.  So an expression is passed on as it is exactly if it holds no
` as ` at all.

## Main definitions

* `Text.depth`, `Text.Balanced` — how many parentheses are open, and texts that close them all.
* `Text.OnlyInside` — a word that stands nowhere but inside parentheses.

## Main results

* `Text.holdsWord_trim_of_onlyInside` — such a word is not trimmed away.
* `Field.parse_eq_expression_iff` — **when an expression is passed on as it is.**
* `Field.innerAlias_is_cut` — a call whose ` AS ` stands inside its parentheses.
-/

namespace FluentSql

namespace Text

variable {cs word : List Char}

/-! ### Parentheses -/

/-- How many parentheses a text opens and does not close. -/
def depth (cs : List Char) : Int := cs.count '(' - cs.count ')'

/-- The text closes every parenthesis that it opens, and none before. -/
structure Balanced (cs : List Char) : Prop where
  closed : depth cs = 0
  opened : ∀ n < cs.length, 0 ≤ depth (cs.take n)

instance (cs : List Char) : Decidable (Balanced cs) :=
  decidable_of_iff (depth cs = 0 ∧ ∀ n < cs.length, 0 ≤ depth (cs.take n))
    ⟨fun h => ⟨h.1, h.2⟩, fun h => ⟨h.closed, h.opened⟩⟩

/-- Wherever the word begins, a parenthesis is open. -/
def OnlyInside (word cs : List Char) : Prop :=
  ∀ n < cs.length, startsWithWord word (cs.drop n) = true → 0 < depth (cs.take n)

instance (word cs : List Char) : Decidable (OnlyInside word cs) :=
  inferInstanceAs (Decidable (∀ n < cs.length, _ → _))

theorem depth_append (cs ds : List Char) : depth (cs ++ ds) = depth cs + depth ds := by
  rw [depth, depth, depth, List.count_append, List.count_append]
  omega

theorem mem_of_depth_pos (h : 0 < depth cs) : '(' ∈ cs := by
  rw [depth] at h
  rw [← List.count_pos_iff]
  omega

theorem mem_of_depth_neg (h : depth cs < 0) : ')' ∈ cs := by
  rw [depth] at h
  rw [← List.count_pos_iff]
  omega

/-- A text has no parentheses if its lower-case form has none. -/
theorem depth_of_fold (hopen : '(' ∉ fold cs) (hclose : ')' ∉ fold cs) : depth cs = 0 := by
  have hmem : ∀ c ∈ cs, c.toLower ∈ fold cs := fun c hc => List.mem_map_of_mem hc
  have hopen' : '(' ∉ cs := fun h => hopen (hmem _ h)
  have hclose' : ')' ∉ cs := fun h => hclose (hmem _ h)
  rw [depth, List.count_eq_zero.mpr hopen', List.count_eq_zero.mpr hclose']
  rfl

theorem depth_pos_of_onlyInside {before found after : List Char} (hne : word ≠ [])
    (h : OnlyInside word (before ++ found ++ after)) (hfound : fold found = word) :
    0 < depth before := by
  have hlength : found.length = word.length := by rw [← hfound, fold, List.length_map]
  have hpos : 0 < word.length := List.length_pos_iff.mpr hne
  have hstart : startsWithWord word (found ++ after) = true := by
    rw [startsWithWord_iff, fold, List.map_append, ← fold, hfound]
    exact List.prefix_append _ _
  rw [List.append_assoc] at h
  have hdepth := h before.length (by simp only [List.length_append]; omega)
  rw [List.drop_left, List.take_left] at hdepth
  exact hdepth hstart

/-- Blanks hold no parentheses. -/
theorem depth_of_allBlank (h : allBlank cs = true) : depth cs = 0 := by
  have hblank : ∀ c ∈ cs, isBlank c = true := List.all_eq_true.mp h
  have hopen : '(' ∉ cs := fun hmem => absurd (hblank _ hmem) (by decide)
  have hclose : ')' ∉ cs := fun hmem => absurd (hblank _ hmem) (by decide)
  rw [depth, List.count_eq_zero.mpr hopen, List.count_eq_zero.mpr hclose]
  rfl

theorem depth_pos_of_trim {before found after : List Char} (hne : word ≠ [])
    (h : OnlyInside word cs) (htrim : trim cs = before ++ (found ++ after))
    (hfound : fold found = word) : 0 < depth before := by
  obtain ⟨front, back, hsplit, hfront, -⟩ := exists_trim cs
  have hcs : cs = front ++ before ++ found ++ (after ++ back) := by
    rw [hsplit, htrim]
    simp only [List.append_assoc]
  rw [hcs] at h
  have hpos := depth_pos_of_onlyInside hne h hfound
  rwa [depth_append, depth_of_allBlank hfront, Int.zero_add] at hpos

/-- A word that stands only inside parentheses is not trimmed away. -/
theorem holdsWord_trim_of_onlyInside (hne : word ≠ []) (hopen : '(' ∉ word) (hclose : ')' ∉ word)
    (hbalanced : Balanced cs) (hinside : OnlyInside word cs) :
    holdsWord word (trim cs) = holdsWord word cs := by
  rw [Bool.eq_iff_iff]
  constructor
  · exact holdsWord_of_isInfix (isInfix_trim cs)
  · intro hword
    obtain ⟨before, found, after, rfl, hfound⟩ := exists_of_holdsWord hword
    have hbefore : 0 < depth before := depth_pos_of_onlyInside hne hinside hfound
    -- what is opened before the word is closed behind it
    have hafter : depth after < 0 := by
      have hnone : depth found = 0 := depth_of_fold (by rwa [hfound]) (by rwa [hfound])
      have hclosed := hbalanced.closed
      rw [depth_append, depth_append, hnone] at hclosed
      omega
    have hfront := allBlank_eq_false_of_mem (mem_of_depth_pos hbefore) (by decide)
    have hback := allBlank_eq_false_of_mem (mem_of_depth_neg hafter) (by decide)
    subst hfound
    rw [trim_append_append hfront hback]
    exact holdsWord_of_isInfix (List.infix_append _ found _)
      (holdsWord_iff.mpr (List.infix_refl _))

end Text

/-! ### Expressions that are passed on -/

namespace Field

variable {s : String}

theorem isExpressionText_of_paren (h : '(' ∈ s.toList ∨ ')' ∈ s.toList) :
    isExpressionText s.toList = true := by
  rw [isExpressionText_iff, ← or_assoc]
  exact Or.inl h

theorem parse_of_not_holdsWord (hparen : '(' ∈ s.toList ∨ ')' ∈ s.toList)
    (h : Text.holdsWord aliasWord s.toList = false) : parse s = expression (trimmed s) := by
  have hstar : Text.trim s.toList ≠ ['*'] := by
    intro hstar
    have hmem : '(' ∈ ['*'] ∨ ')' ∈ ['*'] := by
      rw [← hstar, Text.mem_trim (by decide), Text.mem_trim (by decide)]
      exact hparen
    exact absurd hmem (by decide)
  rw [parse, ofChars_of_splitAlias_eq_none (splitAlias_trim_eq_none h), if_neg hstar,
    if_pos (isExpressionText_of_paren hparen), trimmed]

theorem render_parse_of_not_holdsWord (hparen : '(' ∈ s.toList ∨ ')' ∈ s.toList)
    (h : Text.holdsWord aliasWord s.toList = false) : (parse s).render = .ok (trimmed s) := by
  rw [parse, render_ofChars (splitAlias_trim_eq_none h),
    if_pos (isExpressionText_of_paren hparen), trimmed]

/-- A text that holds ` as ` is cut, and names nothing that is as long as itself. -/
theorem not_holdsWord_of_core (h : (parse s).core = expression (trimmed s)) :
    Text.holdsWord aliasWord (Text.trim s.toList) = false := by
  rw [← splitAlias_trim_eq_none_iff]
  cases hsplit : splitAlias (Text.trim s.toList) with
  | none => rfl
  | some cut => exact absurd h (core_ne_of_splitAlias hsplit)

/-- What stands before the last ` as ` is a field of its own, under what stands behind. -/
theorem exists_cut_of_holdsWord (h : Text.holdsWord aliasWord (Text.trim s.toList) = true) :
    ∃ before found after, (trimmed s).toList = before ++ (found ++ after) ∧
      Text.fold found = aliasWord ∧ Text.holdsWord aliasWord (found ++ after).tail = false ∧
      parse s = (ofChars before).withAlias (String.ofList after) := by
  obtain ⟨before, found, after, htrim, hfound, hlast, hsplit⟩ := splitAlias_trim_of_holdsWord h
  refine ⟨before, found, after, ?_, hfound, hlast, ?_⟩
  · rw [toList_trimmed, htrim]
  · rw [parse, ofChars_of_splitAlias hsplit, ofChars_trim, withAlias_eq, withAlias_eq,
      unquoteAlias_congr (Text.trim_trim after)]

/-- The SQL of a field under an alias holds a backtick, so it is no text without quotes. -/
theorem render_withAlias_ne (hquotes : s.toList.any isQuote = false) (field : Field)
    (label : String) : (field.withAlias label).render ≠ .ok (trimmed s) := by
  rw [withAlias_eq, render]
  intro h
  obtain ⟨sql, -, hsql⟩ := bind_eq_ok_iff.mp h
  rw [pure_eq_ok_iff] at hsql
  have hmem : backtick ∈ (trimmed s).toList := by
    rw [← hsql, String.toList_append, toList_quoteIdentifier, Text.quoted]
    exact List.mem_append_right _ List.mem_cons_self
  rw [toList_trimmed, Text.mem_trim (by decide)] at hmem
  exact List.any_eq_false.mp hquotes backtick hmem (by decide)

/-- An alias behind an expression is the only thing taken off exactly if the expression holds no
` as `, and the alias does not begin with `as `. -/
theorem parse_append_alias_iff (hparen : '(' ∈ s.toList ∨ ')' ∈ s.toList)
    (hkept : Text.holdsWord aliasWord (Text.trim s.toList) = Text.holdsWord aliasWord s.toList)
    {label : String} (hlabel : isBlankText label = false)
    (hfree : Text.holdsWord aliasWord label.toList = false) :
    parse (s ++ " AS " ++ label) = aliased (expression (trimmed s)) (unquoteAlias label) ∧
      (parse (s ++ " AS " ++ label)).render =
        .ok (trimmed s ++ " AS " ++ quoteIdentifier (unquoteAlias label)) ↔
    Text.holdsWord aliasWord s.toList = false ∧
      Text.startsWithWord "as ".toList (Text.trimEnd label.toList) = false := by
  have hblank : Text.allBlank s.toList = false :=
    allBlank_of_isExpressionText (isExpressionText_of_paren hparen)
  rw [parse_append_alias, ofChars_append_alias hblank hlabel hfree]
  constructor
  · rintro ⟨hparse, -⟩
    by_cases hsecond : Text.startsWithWord "as ".toList (Text.trimEnd label.toList) = true
    · -- the alias would have lost its first word
      rw [if_pos hsecond, withAlias_eq, aliased.injEq] at hparse
      have hne := unquoteAlias_drop_ne hsecond
      rw [String.ofList_toList] at hne
      exact absurd hparse.2 hne
    · rw [if_neg hsecond, withAlias_eq, aliased.injEq] at hparse
      exact ⟨hkept.symm.trans (not_holdsWord_of_core hparse.1), Bool.eq_false_iff.mpr hsecond⟩
  · rintro ⟨hnone, hsecond⟩
    have hparse : ofChars s.toList = expression (trimmed s) := parse_of_not_holdsWord hparen hnone
    rw [if_neg (Bool.eq_false_iff.mp hsecond), String.ofList_toList, hparse]
    refine ⟨rfl, render_aliased ?_ _⟩
    rw [← hparse]
    exact render_parse_of_not_holdsWord hparen hnone

/-- **When an expression is passed on as it is.**  A text with parentheses, all of them closed and
` as ` standing nowhere but inside them, is an expression exactly if ` as ` does not stand in it at
all, and then it is its own SQL.  Under the same condition an alias that is added behind it is
the only thing taken off, if the alias does not begin with `as ` itself.  Otherwise the text is cut
at its last ` as `, within the parentheses that are open there. -/
theorem parse_eq_expression_iff (hquotes : s.toList.any isQuote = false)
    (hparen : '(' ∈ s.toList ∨ ')' ∈ s.toList) (hbalanced : Text.Balanced s.toList)
    (hinside : Text.OnlyInside aliasWord s.toList) :
    (parse s = expression (trimmed s) ↔ Text.holdsWord aliasWord s.toList = false) ∧
    ((parse s).render = .ok (trimmed s) ↔ Text.holdsWord aliasWord s.toList = false) ∧
    (∀ label : String, isBlankText label = false → Text.holdsWord aliasWord label.toList = false →
      (parse (s ++ " AS " ++ label) = aliased (expression (trimmed s)) (unquoteAlias label) ∧
        (parse (s ++ " AS " ++ label)).render =
          .ok (trimmed s ++ " AS " ++ quoteIdentifier (unquoteAlias label)) ↔
        Text.holdsWord aliasWord s.toList = false ∧
          Text.startsWithWord "as ".toList (Text.trimEnd label.toList) = false)) ∧
    (Text.holdsWord aliasWord s.toList = true →
      ∃ before found after, (trimmed s).toList = before ++ (found ++ after) ∧
        Text.fold found = aliasWord ∧ Text.holdsWord aliasWord (found ++ after).tail = false ∧
        0 < Text.depth before ∧ parse s = (ofChars before).withAlias (String.ofList after)) := by
  have hword : aliasWord ≠ [] := by decide
  have hkept : Text.holdsWord aliasWord (Text.trim s.toList) =
      Text.holdsWord aliasWord s.toList :=
    Text.holdsWord_trim_of_onlyInside hword (by decide) (by decide) hbalanced hinside
  refine ⟨⟨fun hparse => ?_, parse_of_not_holdsWord hparen⟩,
    ⟨fun hrender => ?_, render_parse_of_not_holdsWord hparen⟩,
    fun label hlabel hfree => parse_append_alias_iff hparen hkept hlabel hfree, fun hholds => ?_⟩
  · exact hkept.symm.trans (not_holdsWord_of_core (by rw [hparse]; rfl))
  · rw [Bool.eq_false_iff]
    intro hholds
    obtain ⟨before, found, after, -, -, -, hparse⟩ :=
      exists_cut_of_holdsWord (hkept.trans hholds)
    rw [hparse] at hrender
    exact render_withAlias_ne hquotes _ _ hrender
  · obtain ⟨before, found, after, htrim, hfound, hlast, hparse⟩ :=
      exists_cut_of_holdsWord (hkept.trans hholds)
    refine ⟨before, found, after, htrim, hfound, hlast, ?_, hparse⟩
    rw [toList_trimmed] at htrim
    exact Text.depth_pos_of_trim hword hinside htrim hfound

/-- A sum of products is passed on, alone and under a name of two words. -/
theorem parse_eq_expression_taxedSum :
    " SUM(price * (1 + tax))".toList.any isQuote = false ∧
    ('(' ∈ " SUM(price * (1 + tax))".toList ∨ ')' ∈ " SUM(price * (1 + tax))".toList) ∧
    Text.Balanced " SUM(price * (1 + tax))".toList ∧
    Text.OnlyInside aliasWord " SUM(price * (1 + tax))".toList ∧
    parse " SUM(price * (1 + tax))" = expression "SUM(price * (1 + tax))" ∧
    (parse " SUM(price * (1 + tax))").render = .ok "SUM(price * (1 + tax))" ∧
    parse (" SUM(price * (1 + tax))" ++ " AS " ++ "Total sum") =
      aliased (expression "SUM(price * (1 + tax))") "Total sum" := by
  have hquotes : " SUM(price * (1 + tax))".toList.any isQuote = false := by decide
  have hparen : '(' ∈ " SUM(price * (1 + tax))".toList ∨ ')' ∈ " SUM(price * (1 + tax))".toList :=
    by decide
  have hbalanced : Text.Balanced " SUM(price * (1 + tax))".toList := by decide +kernel
  have hinside : Text.OnlyInside aliasWord " SUM(price * (1 + tax))".toList := by decide +kernel
  have hfree : Text.holdsWord aliasWord " SUM(price * (1 + tax))".toList = false := by
    decide +kernel
  obtain ⟨hparse, hrender, halias, -⟩ :=
    parse_eq_expression_iff hquotes hparen hbalanced hinside
  have hlabel := halias "Total sum" (by decide +kernel) (by decide +kernel)
  exact ⟨hquotes, hparen, hbalanced, hinside, hparse.mpr hfree, hrender.mpr hfree,
    (hlabel.mpr ⟨hfree, by decide +kernel⟩).1⟩

/-- A conversion is cut within its parentheses: what is left of it goes under its own end. -/
theorem innerAlias_is_cut :
    "CAST(price AS CHAR)".toList.any isQuote = false ∧
    '(' ∈ "CAST(price AS CHAR)".toList ∧
    Text.Balanced "CAST(price AS CHAR)".toList ∧
    Text.OnlyInside aliasWord "CAST(price AS CHAR)".toList ∧
    parse "CAST(price AS CHAR)" ≠ expression (trimmed "CAST(price AS CHAR)") ∧
    parse "CAST(price AS CHAR)" = aliased (expression "CAST(price") "CHAR)" ∧
    (parse "CAST(price AS CHAR)").render = .ok "CAST(price AS \x60CHAR)\x60" := by
  have hparse : parse "CAST(price AS CHAR)" = aliased (expression "CAST(price") "CHAR)" := by
    decide +kernel
  refine ⟨by decide, by decide, by decide +kernel, by decide +kernel, ?_, hparse, ?_⟩
  · rw [hparse]
    exact Field.noConfusion
  · rw [hparse]
    exact congrArg Except.ok (by decide +kernel)

end Field

end FluentSql
