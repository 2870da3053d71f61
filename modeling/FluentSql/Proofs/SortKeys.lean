import FluentSql.Proofs.Identifiers
import FluentSql.Proofs.Spelling
import Mathlib.Data.List.Infix

/-!
# The two spellings of an ordering

An ordering is given as a field and a direction, or as one text with a space between them.  The text
is cut at its first space.  A field without spaces is therefore read as it was meant; of any other
field only the first word is left, and the direction is ascending, since what is behind the first
word names no direction.  No error is left, and the SQL is never the one that was meant.

## Main definitions

* `NamesDirection` — `asc` or `desc`, in any case of letters.
* `SortKey.firstWord` — a text up to its first space.

## Main results

* `withoutBlanks_eq_of_quoteQualified_eq` — names with the same SQL differ in blanks at most.
* `Field.render_firstWord_ne` — the first word of a field does not have the SQL of the field.
* `SortKey.parse_append` — what a field with a direction behind it is read as.
* `Builder.orderBy_text_eq_pair_iff` — **when the two spellings lead to the same builder.**
* `Builder.product_is_cut` — an ordering that the two spellings do not make alike.
-/

namespace FluentSql

namespace Text

variable {c : Char} {cs : List Char}

/-- What stands before and after the first space. -/
theorem cut_firstSpace {front : List Char} (h : ' ' ∉ front) (rest : List Char) :
    (front ++ ' ' :: rest).takeWhile (· != ' ') = front ∧
      (front ++ ' ' :: rest).dropWhile (· != ' ') = ' ' :: rest := by
  have hfront : ∀ c ∈ front, (c != ' ') = true := by
    intro c hc
    rw [bne_iff_ne]
    rintro rfl
    exact h hc
  rw [List.takeWhile_append_of_pos hfront, List.dropWhile_append_of_pos hfront]
  simp

/-- A trimmed text neither begins nor ends with blanks. -/
theorem allBlank_of_trim_append {front back : List Char}
    (htrim : trim (front ++ back) = front ++ back) :
    (front ≠ [] → allBlank front = false) ∧ (back ≠ [] → allBlank back = false) := by
  constructor
  · intro hne
    obtain ⟨c, rest, rfl⟩ := List.exists_cons_of_ne_nil hne
    have hhead : (trim (c :: rest ++ back)).head? = some c := by rw [htrim]; rfl
    exact allBlank_eq_false_of_mem List.mem_cons_self (isBlank_head?_trim hhead)
  · intro hne
    obtain ⟨rest, c, rfl⟩ := (List.eq_nil_or_concat' back).resolve_left hne
    have hlast : (trim (front ++ (rest ++ [c]))).getLast? = some c := by
      rw [htrim, ← List.append_assoc, List.getLast?_concat]
    exact allBlank_eq_false_of_mem (by simp) (isBlank_getLast?_trim hlast)

/-- In a trimmed text there is more than blanks on both sides of the first space. -/
theorem exists_firstSpace (htrim : trim cs = cs) (h : ' ' ∈ cs) :
    ∃ front back, cs = front ++ ' ' :: back ∧ ' ' ∉ front ∧ allBlank front = false ∧
      allBlank back = false := by
  obtain ⟨front, back, rfl, hfront⟩ := List.eq_append_cons_of_mem h
  have hbefore : allBlank (front ++ [' ']) = false := by
    rw [List.append_cons] at htrim
    exact (allBlank_of_trim_append htrim).1 (by simp)
  have hafter : allBlank (' ' :: back) = false :=
    (allBlank_of_trim_append htrim).2 (List.cons_ne_nil _ _)
  have hspace : isBlank ' ' = true := by decide
  refine ⟨front, back, rfl, hfront, ?_, ?_⟩
  · simpa [allBlank, hspace] using hbefore
  · simpa [allBlank, hspace] using hafter

end Text

/-- Names with the same SQL differ in blanks at most. -/
theorem withoutBlanks_eq_of_quoteQualified_eq {a b : String}
    (h : quoteQualified a = quoteQualified b) : withoutBlanks a = withoutBlanks b := by
  have hparts (name : String) :
      ['.'].intercalate ((properParts name).map fun part => Text.dropBlanks part.toList) =
        Text.dropBlanks name.toList := by
    have hmap : (properParts name).map (fun part => Text.dropBlanks part.toList) =
        (Text.pieces (· == '.') name.toList).map Text.dropBlanks := by
      simp [properParts, nameParts, Function.comp_def, Text.dropBlanks_trim]
    rw [hmap, ← Text.dropBlanks_intercalate (by decide), Text.intercalate_pieces]
  have heq := quoteQualified_eq_iff.mp h
  unfold withoutBlanks
  rw [← hparts a, heq, hparts b]

/-! ### The SQL of a first word -/

namespace Field

variable {cs : List Char} {sql : String}

/-- A field without spaces has no spaces in its SQL. -/
theorem space_notMem_render (h : ' ' ∉ cs) (hsql : (ofChars cs).render = .ok sql) :
    ' ' ∉ sql.toList := by
  have hword : Text.holdsWord aliasWord cs = false :=
    Text.not_holdsWord_of_space_notMem (by decide) h
  have htrim : ' ' ∉ Text.trim cs := fun hmem => h ((Text.isInfix_trim cs).subset hmem)
  rw [render_ofChars (splitAlias_trim_eq_none hword)] at hsql
  split at hsql
  · cases hsql
    rwa [String.toList_ofList]
  · split at hsql
    · cases hsql
    · cases hsql
      -- quoting adds points and backticks only
      rw [← Text.holdsWord_singleton_iff (by decide), Bool.not_eq_true]
      apply not_holdsWord_quoteQualified (by decide) (by decide) (by decide)
      rwa [← Bool.not_eq_true, Text.holdsWord_singleton_iff (by decide), String.toList_ofList]

/-- A field under an alias has. -/
theorem space_mem_render_withAlias {field : Field} {label : String}
    (hsql : (field.withAlias label).render = .ok sql) : ' ' ∈ sql.toList := by
  have haliased : ∀ {inner : Field} {label : String}, (aliased inner label).render = .ok sql →
      ' ' ∈ sql.toList := by
    intro inner label h
    simp only [render, bind_eq_ok_iff, pure_eq_ok_iff] at h
    obtain ⟨s, -, rfl⟩ := h
    simp
  cases field with
  | aliased inner old => exact haliased hsql
  | _ => exact haliased hsql

/-- **The first word of a field does not have the SQL of the field**, provided that there is more
than blanks behind it. -/
theorem render_firstWord_ne {front back : List Char} (hspace : ' ' ∉ front)
    (hfront : Text.allBlank front = false) (hback : Text.allBlank back = false)
    {word whole : String} (hword : (ofChars front).render = .ok word)
    (hwhole : (ofChars (front ++ ' ' :: back)).render = .ok whole) : word ≠ whole := by
  rintro rfl
  have hnone : ' ' ∉ word.toList := space_notMem_render hspace hword
  cases hsplit : splitAlias (Text.trim (front ++ ' ' :: back)) with
  | some cut =>
    obtain ⟨body, label⟩ := cut
    rw [ofChars_of_splitAlias hsplit] at hwhole
    exact hnone (space_mem_render_withAlias hwhole)
  | none =>
    have hplain : splitAlias (Text.trim front) = none :=
      splitAlias_trim_eq_none (Text.not_holdsWord_of_space_notMem (by decide) hspace)
    rw [render_ofChars hsplit] at hwhole
    rw [render_ofChars hplain, hfront] at hword
    by_cases hexpression : isExpressionText (front ++ ' ' :: back) = true
    · -- an expression is passed on, with its space
      rw [if_pos hexpression] at hwhole
      cases hwhole
      have htrim : Text.trim (front ++ [' '] ++ back) =
          Text.trimStart front ++ [' '] ++ Text.trimEnd back :=
        Text.trim_append_append hfront hback [' ']
      apply hnone
      rw [String.toList_ofList, List.append_cons, htrim]
      simp
    · -- two columns: what is behind the first word would have to be blank
      have hname : ¬isExpressionText front = true := by
        intro h
        apply hexpression
        rw [isExpressionText_iff] at h ⊢
        simp only [List.mem_append]
        tauto
      rw [if_neg hname, if_neg Bool.false_ne_true] at hword
      rw [if_neg hexpression] at hwhole
      split at hwhole
      · cases hwhole
      · have hquoted := (Except.ok.inj hword).trans (Except.ok.inj hwhole).symm
        have hsame := congrArg String.toList (withoutBlanks_eq_of_quoteQualified_eq hquoted)
        rw [toList_withoutBlanks, toList_withoutBlanks, String.toList_ofList,
          String.toList_ofList, Text.dropBlanks_trim, Text.dropBlanks_trim, Text.dropBlanks_append,
          Text.dropBlanks_cons_of_isBlank (by decide), List.self_eq_append_right,
          Text.dropBlanks_eq_nil_iff, hback] at hsame
        cases hsame

end Field

/-! ### Keys of one text -/

/-- `asc` or `desc`, in any case of letters. -/
def NamesDirection (d : String) : Prop :=
  Text.fold d.toList = "asc".toList ∨ Text.fold d.toList = "desc".toList

instance (d : String) : Decidable (NamesDirection d) := inferInstanceAs (Decidable (_ ∨ _))

/-- The name of a direction has no blanks. -/
theorem NamesDirection.isBlank_of_mem {d : String} (h : NamesDirection d) {c : Char}
    (hc : c ∈ d.toList) : isBlank c = false := by
  rw [Bool.eq_false_iff]
  intro hblank
  have hmem : c ∈ Text.fold d.toList := by
    rw [← Text.toLower_of_isBlank hblank]
    exact List.mem_map_of_mem hc
  have hletter : c ∈ "asc".toList ++ "desc".toList := by
    rcases h with h | h
    · exact List.mem_append_left _ (h ▸ hmem)
    · exact List.mem_append_right _ (h ▸ hmem)
  have hletters : ("asc".toList ++ "desc".toList).all (fun e => !isBlank e) = true := by rfl
  have hkept : (!isBlank c) = true := List.all_eq_true.mp hletters c hletter
  rw [hblank] at hkept
  cases hkept

theorem NamesDirection.allBlank {d : String} (h : NamesDirection d) :
    Text.allBlank d.toList = false := by
  obtain ⟨c, hc⟩ : ∃ c, c ∈ d.toList := by
    apply List.exists_mem_of_ne_nil
    rintro hnil
    rw [NamesDirection, hnil] at h
    revert h
    decide
  exact Text.allBlank_eq_false_of_mem hc (h.isBlank_of_mem hc)

/-- A text with a space in it names no direction, so it stands for the ascending one. -/
theorem Direction.ofChars_of_space_mem {cs : List Char} (h : ' ' ∈ Text.trim cs) :
    ofChars cs = .asc := by
  unfold ofChars
  rw [if_neg]
  intro hdesc
  have hmem : ' ' ∈ Text.fold (Text.trim cs) := List.mem_map.mpr ⟨' ', h, by decide⟩
  rw [hdesc] at hmem
  revert hmem
  decide

theorem Direction.ofChars_space_cons (cs : List Char) : ofChars (' ' :: cs) = ofChars cs := by
  have htrim : Text.trim (' ' :: cs) = Text.trim cs := by
    rw [Text.trim, Text.trimStart, List.dropWhile_cons_of_pos (by decide), ← Text.trimStart,
      ← Text.trim]
  unfold ofChars
  rw [htrim]

namespace SortKey

variable {f d : String}

/-- A text up to its first space. -/
def firstWord (s : String) : String := String.ofList (s.toList.takeWhile (· != ' '))

/-- A text is cut at its first space. -/
theorem parse_of_trim {s : String} {front rest : List Char} (hspace : ' ' ∉ front)
    (h : Text.trim s.toList = front ++ ' ' :: rest) :
    parse s = ⟨String.ofList front, Direction.ofChars (' ' :: rest)⟩ := by
  obtain ⟨hbefore, hafter⟩ := Text.cut_firstSpace hspace rest
  rw [parse, h, hbefore, hafter]

theorem firstWord_of_append {s : String} {front rest : List Char} (hspace : ' ' ∉ front)
    (h : s.toList = front ++ ' ' :: rest) : firstWord s = String.ofList front := by
  rw [firstWord, h, (Text.cut_firstSpace hspace rest).1]

/-- The first of several words of a field has SQL, as the field has, but not the same. -/
theorem exists_render_firstWord (hf : trimmed f = f) (hspace : ' ' ∈ f.toList) :
    isBlankText (firstWord f) = false ∧ isBlankText f = false ∧
      ∃ word whole, (Field.parse (firstWord f)).render = .ok word ∧
        (Field.parse f).render = .ok whole ∧ word ≠ whole := by
  have htrim : Text.trim f.toList = f.toList := by rw [← toList_trimmed, hf]
  obtain ⟨front, back, hcut, hfront, hfrontBlank, hbackBlank⟩ :=
    Text.exists_firstSpace htrim hspace
  have hword : firstWord f = String.ofList front := firstWord_of_append hfront hcut
  have hwordBlank : isBlankText (firstWord f) = false := by
    rw [hword, isBlankText, String.toList_ofList, hfrontBlank]
  have hfieldBlank : isBlankText f = false := by
    rw [isBlankText, Text.allBlank, hcut, List.all_append, ← Text.allBlank, hfrontBlank,
      Bool.false_and]
  obtain ⟨word, hwordSql⟩ := Field.exists_render_parse hwordBlank
  obtain ⟨whole, hwholeSql⟩ := Field.exists_render_parse hfieldBlank
  refine ⟨hwordBlank, hfieldBlank, word, whole, hwordSql, hwholeSql, ?_⟩
  rw [Field.parse, hword, String.toList_ofList] at hwordSql
  rw [Field.parse, hcut] at hwholeSql
  exact Field.render_firstWord_ne hfront hfrontBlank hbackBlank hwordSql hwholeSql

/-- Nothing is trimmed from a trimmed field with a direction behind it. -/
theorem trim_append (hf : trimmed f = f) (hne : f ≠ "") (hd : NamesDirection d) :
    Text.trim (f ++ " " ++ d).toList = f.toList ++ ' ' :: d.toList := by
  have htrim : Text.trim f.toList = f.toList := by rw [← toList_trimmed, hf]
  have hblank : Text.allBlank f.toList = false := by
    rw [Bool.eq_false_iff, ne_eq, ← Text.trim_eq_nil_iff, htrim]
    exact fun h => hne (String.toList_eq_nil_iff.mp h)
  have hstart : Text.trimStart f.toList = f.toList := by
    refine Text.trimStart_eq_self fun c hc => ?_
    rw [← htrim] at hc
    exact Text.isBlank_head?_trim hc
  have hend : Text.trimEnd d.toList = d.toList :=
    Text.trimEnd_eq_self fun c hc => hd.isBlank_of_mem (List.mem_of_getLast? hc)
  have hmid : (f ++ " " ++ d).toList = f.toList ++ [' '] ++ d.toList := by simp
  rw [hmid, Text.trim_append_append hblank hd.allBlank, hstart, hend, List.append_assoc,
    List.singleton_append]

/-- **A field with a direction behind it** is read as the two, if it is one word; otherwise only its
first word is left, in ascending order. -/
theorem parse_append (hf : trimmed f = f) (hne : f ≠ "") (hd : NamesDirection d) :
    parse (f ++ " " ++ d) = if ' ' ∈ f.toList then ⟨firstWord f, .asc⟩ else ofPair f d := by
  have htrim := trim_append hf hne hd
  split
  · rename_i hspace
    have hself : Text.trim f.toList = f.toList := by rw [← toList_trimmed, hf]
    obtain ⟨front, back, hcut, hfront, -, hback⟩ := Text.exists_firstSpace hself hspace
    rw [hcut, List.append_assoc, List.cons_append] at htrim
    -- behind the first word is a space, which the name of a direction has not
    have hrest : Text.trim (back ++ [' '] ++ d.toList) =
        Text.trimStart back ++ [' '] ++ Text.trimEnd d.toList :=
      Text.trim_append_append hback hd.allBlank [' ']
    have hdirection : Direction.ofChars (back ++ ' ' :: d.toList) = .asc := by
      apply Direction.ofChars_of_space_mem
      rw [List.append_cons, hrest]
      simp
    rw [parse_of_trim hfront htrim, firstWord_of_append hfront hcut,
      Direction.ofChars_space_cons, hdirection]
  · rename_i hspace
    rw [parse_of_trim hspace htrim, String.ofList_toList, Direction.ofChars_space_cons]
    rfl

end SortKey

/-! ### The verb -/

namespace Builder

variable {b : Builder} {f d : String} {k : SortKey} {sql : String}

/-- Where there is no error and no set operator waits, a clause stands at the end of the text. -/
theorem text_run_clause {c : Clause} {g : Fragment} (he : b.error = none)
    (hwait : b.draft.needsSection = false)
    (hskip : c.isSkipped b.dialect b.draft.statement = false)
    (hg : c.compile b.dialect = .ok g) : (b.run (.clause c)).text = b.text ++ g.sql := by
  have hpending : b.draft.statement.pending = none := by
    simpa [Draft.needsSection] using hwait
  have hrun : b.run (.clause c) =
      { b with draft := ⟨b.draft.statement.extend g, b.draft.projection⟩ } :=
    extend_of_ok he (Draft.addClause_of_compile hwait hskip hg)
  rw [hrun]
  exact Statement.render_append hpending g.sql

/-- So does an ordering by one key. -/
theorem text_run_orderBy (he : b.error = none) (hwait : b.draft.needsSection = false)
    (hk : isBlankText k.field = false) (hsql : (Field.parse k.field).render = .ok sql) :
    (b.run (.orderBy [k])).text = b.text ++ (" ORDER BY " ++ (sql ++ " " ++ k.direction.text)) := by
  have hkeys : Clause.keyTexts [k] = .ok [sql ++ " " ++ k.direction.text] := by
    rw [Clause.keyTexts, hsql, Clause.keyTexts]
    rfl
  have hclause : (Clause.orderBy [k]).compile b.dialect =
      .ok (.ofSql (" ORDER BY " ++ (sql ++ " " ++ k.direction.text))) := by
    simp [Clause.compile, hk, hkeys, bind, Except.bind, pure, Except.pure]
  exact text_run_clause he hwait rfl hclause

/-- While an error is kept or a set operator waits it does not matter which ordering is asked for.
-/
theorem run_orderBy_of_blocked (h : b.error.isSome ∨ b.draft.needsSection = true)
    (ks ks' : List SortKey) : b.run (.orderBy ks) = b.run (.orderBy ks') := by
  cases he : b.error with
  | some e =>
    exact (extend_of_error he _).trans (extend_of_error he _).symm
  | none =>
    have hwait : b.draft.needsSection = true := by simpa [he] using h
    have hrefused (ks : List SortKey) : b.run (.orderBy ks) =
        b.record (.missingSelect "QueryBuilder::order_by") :=
      extend_of_failure he (Draft.addClause_of_needsSection hwait)
    rw [hrefused ks, hrefused ks']

/-- Where the ordering is written, the first of several words of a field in ascending order is told
apart from the field in any order. -/
theorem run_orderBy_firstWord_ne (he : b.error = none) (hwait : b.draft.needsSection = false)
    (hf : trimmed f = f) (hspace : ' ' ∈ f.toList) (direction : Direction) :
    b.run (.orderBy [⟨SortKey.firstWord f, .asc⟩]) ≠ b.run (.orderBy [⟨f, direction⟩]) := by
  intro heq
  obtain ⟨hwordBlank, hfieldBlank, word, whole, hword, hwhole, hne⟩ :=
    SortKey.exists_render_firstWord hf hspace
  have hfirst := text_run_orderBy (k := ⟨SortKey.firstWord f, .asc⟩) he hwait hwordBlank hword
  have hsecond := text_run_orderBy (k := ⟨f, direction⟩) he hwait hfieldBlank hwhole
  rw [heq, hsecond] at hfirst
  have hkeys := (String.append_right_inj _).mp ((String.append_right_inj _).mp hfirst.symm)
  cases direction with
  | asc => exact hne ((String.append_left_inj _).mp ((String.append_left_inj _).mp hkeys))
  | desc =>
    -- one ends in ` ASC`, the other in `DESC`
    have hlast := congrArg (fun s : String => s.toList.reverse.take 4) hkeys
    simp [Direction.text] at hlast

/-- **When the two spellings lead to the same builder.**  A field with a direction behind it, in one
text, is read as the field and the direction if the field is one word, and as its first word in
ascending order otherwise.  In every state the two spellings leave the same builder exactly if the
field is one word or nothing is ordered at all, because an error is kept or a set operator waits. -/
theorem orderBy_text_eq_pair_iff (b : Builder) (hf : trimmed f = f) (hne : f ≠ "")
    (hd : NamesDirection d) :
    SortKey.parse (f ++ " " ++ d) =
        (if ' ' ∈ f.toList then ⟨SortKey.firstWord f, .asc⟩ else SortKey.ofPair f d) ∧
      (b.run (.orderBy [SortKey.parse (f ++ " " ++ d)]) =
          b.run (.orderBy [SortKey.ofPair f d]) ↔
        ' ' ∉ f.toList ∨ b.error.isSome ∨ b.draft.needsSection = true) := by
  have hparse := SortKey.parse_append hf hne hd
  refine ⟨hparse, ?_⟩
  by_cases hspace : ' ' ∈ f.toList
  · rw [hparse, if_pos hspace]
    constructor
    · intro heq
      cases he : b.error with
      | some e => exact Or.inr (Or.inl rfl)
      | none =>
        cases hwait : b.draft.needsSection with
        | true => exact Or.inr (Or.inr rfl)
        | false => exact absurd heq (run_orderBy_firstWord_ne he hwait hf hspace _)
    · rintro (h | h)
      · exact absurd hspace h
      · exact run_orderBy_of_blocked h _ _
  · rw [hparse, if_neg hspace]
    exact iff_of_true rfl (Or.inl hspace)

/-- All items. -/
def allItems : Builder := (new .sqlite .default).run (.select (.named "items") [.star])

/-- They are ordered by one column in either way. -/
theorem orderBy_text_eq_pair_iff_price :
    trimmed "price" = "price" ∧ NamesDirection "DESC" ∧
      SortKey.parse "price DESC" = ⟨"price", .desc⟩ ∧
      allItems.run (.orderBy [SortKey.parse "price DESC"]) =
        allItems.run (.orderBy [SortKey.ofPair "price" "DESC"]) := by
  have hf : trimmed "price" = "price" := by rfl
  have hd : NamesDirection "DESC" := by decide
  obtain ⟨hparse, hiff⟩ := orderBy_text_eq_pair_iff allItems hf (by decide) hd
  exact ⟨hf, hd, hparse, hiff.mpr (Or.inl (by decide))⟩

/-- By a product they are not: the text orders by its first factor, the other way round. -/
theorem product_is_cut :
    trimmed "price * qty" = "price * qty" ∧ NamesDirection "desc" ∧
      (allItems.run (.orderBy [SortKey.parse "price * qty desc"])).text =
        "SELECT * FROM `items` ORDER BY `price` ASC" ∧
      (allItems.run (.orderBy [SortKey.ofPair "price * qty" "desc"])).text =
        "SELECT * FROM `items` ORDER BY price * qty DESC" ∧
      (allItems.run (.orderBy [SortKey.parse "price * qty desc"])).error = none :=
  ⟨by rfl, by decide, by decide +kernel, by decide +kernel, by decide +kernel⟩

end Builder

end FluentSql
