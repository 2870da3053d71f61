import FluentSql.Proofs.Rendering
import Mathlib.Data.List.Infix

/-!
# Aliases in the text of a field

The alias of a field stands behind the last ` as ` of its text.  A text that ends in ` AS ` and an
alias is the text in front under that alias, unless the alias begins with `as ` itself: then the
last ` as ` begins in the blank in front of it.

## Main definitions

* `Text.dropQuotes` — a text without the quote characters at its end.
* `Field.core` — a field without its alias.

## Main results

* `Field.splitAlias_trim_eq_none_iff` — a text has an alias exactly if it holds ` as `.
* `Field.core_ne_of_splitAlias` — a text with an alias is not an expression as a whole.
* `Field.ofChars_append_alias` — **what an alias behind a text makes of it.**
-/

namespace FluentSql

namespace Text

/-! ### Quotes at the end -/

/-- The text without the quote characters at its end. -/
def dropQuotes (cs : List Char) : List Char := (cs.reverse.dropWhile isQuote).reverse

theorem length_dropQuotes_append {cs : List Char} {c : Char} (hc : isQuote c = false)
    (ds : List Char) :
    (dropQuotes (cs ++ c :: ds)).length = cs.length + 1 + (dropQuotes ds).length := by
  have hcs : (c :: cs.reverse).dropWhile isQuote = c :: cs.reverse := by
    rw [List.dropWhile_cons_of_neg (by simp [hc])]
  rw [dropQuotes, dropQuotes, List.reverse_append, List.reverse_cons, List.append_assoc,
    List.singleton_append, List.dropWhile_append, hcs]
  split
  · rename_i hnil
    rw [List.isEmpty_iff.mp hnil]
    simp
  · simp only [List.length_reverse, List.length_append, List.length_cons]
    omega

/-- A part of a text has no more in front of the quote characters at its end. -/
theorem length_dropQuotes_le {cs ds : List Char} (h : ds <:+: cs) :
    (dropQuotes ds).length ≤ (dropQuotes cs).length := by
  obtain ⟨front, back, rfl⟩ := h
  have hfront : (dropQuotes ds).length ≤ (dropQuotes (front ++ ds)).length := by
    rw [dropQuotes, dropQuotes, List.reverse_append, List.dropWhile_append]
    split
    · rename_i hnil
      simp [List.isEmpty_iff.mp hnil]
    · simp
  have hback : ∀ es : List Char, (dropQuotes es).length ≤ (dropQuotes (es ++ back)).length := by
    intro es
    have hle := (List.dropWhile_suffix (l := es.reverse) isQuote).length_le
    rw [dropQuotes, dropQuotes, List.length_reverse, List.length_reverse, List.reverse_append,
      List.dropWhile_append]
    split
    · exact Nat.le_refl _
    · rw [List.length_append]
      omega
  exact Nat.le_trans hfront (hback (front ++ ds))

end Text

theorem unquoteAlias_eq (label : List Char) :
    unquoteAlias (String.ofList label) =
      String.ofList (Text.dropQuotes ((Text.trim label).dropWhile isQuote)) := by
  rw [unquoteAlias, String.toList_ofList, Text.dropQuotes]

/-- Blanks around an alias do not matter. -/
theorem unquoteAlias_congr {label label' : List Char} (h : Text.trim label = Text.trim label') :
    unquoteAlias (String.ofList label) = unquoteAlias (String.ofList label') := by
  rw [unquoteAlias_eq, unquoteAlias_eq, h]

/-! ### The word in front of an alias -/

/-- A character has itself for its lower-case form, or it is a capital, thirty-two places in front
of that form. -/
theorem eq_or_of_toLower {c d : Char} (h : c.toLower = d) :
    c = d ∨ (65 ≤ c.toNat ∧ c.toNat ≤ 90 ∧ d.toNat = c.toNat + 32) := by
  subst h
  by_cases hupper : 'A'.val ≤ c.val ∧ c.val ≤ 'Z'.val
  · have hlow : 65 ≤ c.val.toNat := UInt32.le_iff_toNat_le.mp hupper.1
    have hhigh : c.val.toNat ≤ 90 := UInt32.le_iff_toNat_le.mp hupper.2
    have hlower : c.toLower.val = c.val + ('a'.val - 'A'.val) := congrArg Char.val (dif_pos hupper)
    have hshift : ('a'.val - 'A'.val).toNat = 32 := by decide
    refine Or.inr ⟨hlow, hhigh, ?_⟩
    show c.toLower.val.toNat = c.val.toNat + 32
    rw [hlower, UInt32.toNat_add, hshift]
    omega
  · have hlower : c.toLower = c := dif_neg hupper
    exact Or.inl hlower.symm

/-- A blank is its own lower-case form. -/
theorem Text.toLower_of_isBlank {c : Char} (h : isBlank c = true) : c.toLower = c := by
  rcases eq_or_of_toLower (c := c) rfl with heq | ⟨hlow, hhigh, -⟩
  · exact heq.symm
  · simp [isBlank] at h
    omega

/-- A character in front of the letters is the lower-case form of no other one. -/
theorem eq_of_toLower {c d : Char} (hd : d.toNat < 65) (h : c.toLower = d) : c = d := by
  rcases eq_or_of_toLower h with rfl | ⟨hlow, -, hcode⟩
  · rfl
  · omega

/-- Only a blank has the lower-case form of a blank. -/
theorem eq_space_of_toLower {c : Char} (h : c.toLower = ' ') : c = ' ' :=
  eq_of_toLower (by decide) h

theorem toLower_of_lt {c : Char} (hc : c.toNat < 65) : c.toLower = c := by
  rcases eq_or_of_toLower (c := c) rfl with heq | ⟨hlow, -, -⟩
  · exact heq.symm
  · omega

/-- Such a character is a word of its own. -/
theorem Text.holdsWord_singleton_iff {c : Char} (hc : c.toNat < 65) {cs : List Char} :
    holdsWord [c] cs = true ↔ c ∈ cs := by
  rw [holdsWord_iff, List.singleton_infix_iff, fold, List.mem_map]
  constructor
  · rintro ⟨d, hd, hlower⟩
    rwa [eq_of_toLower hc hlower] at hd
  · intro h
    exact ⟨c, h, toLower_of_lt hc⟩

/-- The first letter of `as ` is neither blank nor a quote character. -/
theorem isBlank_of_toLower {c : Char} (h : c.toLower = 'a') :
    isBlank c = false ∧ isQuote c = false := by
  rcases eq_or_of_toLower h with rfl | ⟨-, -, hcode⟩
  · decide
  · have hsmall : 'a'.toNat = 97 := rfl
    have hcapital : 'A'.toNat = 65 := rfl
    have hc : c = 'A' := Char.toNat_inj.mp (by omega)
    subst hc
    decide

/-- The word in front of an alias begins and ends with a blank. -/
theorem eq_of_fold_eq_aliasWord {found : List Char} (h : Text.fold found = aliasWord) :
    ∃ x y, found = [' ', x, y, ' '] := by
  have hword : aliasWord = [' ', 'a', 's', ' '] := by decide
  rw [hword] at h
  simp only [Text.fold, List.map_eq_cons_iff, List.map_eq_nil_iff] at h
  obtain ⟨c, -, rfl, hc, x, -, rfl, -, y, -, rfl, -, d, -, rfl, hd, rfl⟩ := h
  rw [eq_space_of_toLower hc, eq_space_of_toLower hd]
  exact ⟨x, y, rfl⟩

/-! ### Where a text is cut -/

namespace Field

variable {cs label : List Char}

/-- A trimmed text that holds ` as ` is cut at the last one. -/
theorem splitAlias_trim_of_holdsWord (h : Text.holdsWord aliasWord (Text.trim cs) = true) :
    ∃ before found after, Text.trim cs = before ++ (found ++ after) ∧
      Text.fold found = aliasWord ∧ Text.holdsWord aliasWord (found ++ after).tail = false ∧
      splitAlias (Text.trim cs) = some (Text.trim before, Text.trim after) := by
  have hword : aliasWord ≠ [] := by decide
  cases hcut : Text.cutLast aliasWord (Text.trim cs) with
  | none =>
    rw [Text.cutLast_eq_none_iff hword, h] at hcut
    cases hcut
  | some cut =>
    obtain ⟨before, after⟩ := cut
    obtain ⟨found, hcs, hfound, hlast⟩ := Text.eq_of_cutLast hcut
    rw [Text.cutLast_eq_none_iff hword] at hlast
    refine ⟨before, found, after, hcs, hfound, hlast, ?_⟩
    obtain ⟨x, y, rfl⟩ := eq_of_fold_eq_aliasWord hfound
    -- the text begins and ends without a blank, the word does not
    have hbefore : Text.allBlank before = false := by
      cases before with
      | nil =>
        have hfirst : (Text.trim cs).head? = some ' ' := by rw [hcs]; rfl
        exact absurd (Text.isBlank_head?_trim hfirst) (by decide)
      | cons c before =>
        have hfirst : (Text.trim cs).head? = some c := by rw [hcs]; rfl
        exact Text.allBlank_eq_false_of_mem List.mem_cons_self (Text.isBlank_head?_trim hfirst)
    have hafter : Text.allBlank after = false := by
      rcases List.eq_nil_or_concat after with rfl | ⟨init, d, rfl⟩
      · have hlast : (Text.trim cs).getLast? = some ' ' := by rw [hcs]; simp
        exact absurd (Text.isBlank_getLast?_trim hlast) (by decide)
      · have hlast : (Text.trim cs).getLast? = some d := by
          rw [hcs, List.concat_eq_append, ← List.append_assoc, ← List.append_assoc,
            List.getLast?_concat]
        exact Text.allBlank_eq_false_of_mem (by simp) (Text.isBlank_getLast?_trim hlast)
    rw [splitAlias, hcut]
    simp only [hbefore, hafter, Bool.or_self, Bool.false_eq_true, if_false]

/-- **A text has an alias exactly if it holds ` as `**, blanks around it apart. -/
theorem splitAlias_trim_eq_none_iff :
    splitAlias (Text.trim cs) = none ↔ Text.holdsWord aliasWord (Text.trim cs) = false := by
  constructor
  · intro hnone
    rw [Bool.eq_false_iff]
    intro hword
    obtain ⟨_, _, _, _, _, _, hsome⟩ := splitAlias_trim_of_holdsWord hword
    rw [hnone] at hsome
    cases hsome
  · exact splitAlias_eq_none

/-! ### Fields without their aliases -/

/-- A field without its alias. -/
def core : Field → Field
  | aliased field _ => field
  | field => field

theorem withAlias_eq (field : Field) (label : String) :
    field.withAlias label = aliased field.core (unquoteAlias label) := by
  cases field <;> rfl

/-- A field that a text without an alias names has no alias. -/
theorem core_ofChars (h : splitAlias (Text.trim cs) = none) : (ofChars cs).core = ofChars cs := by
  rw [ofChars_of_splitAlias_eq_none h]
  split
  · rfl
  · split <;> rfl

/-- So under an alias it has its SQL and the alias. -/
theorem render_withAlias_ofChars {s : String} (h : splitAlias (Text.trim cs) = none)
    (hs : (ofChars cs).render = .ok s) (label : String) :
    ((ofChars cs).withAlias label).render =
      .ok (s ++ " AS " ++ quoteIdentifier (unquoteAlias label)) := by
  rw [withAlias_eq, core_ofChars h]
  exact render_aliased hs _

/-- An expression that a text names is not longer than the text. -/
theorem length_le_of_core {sql : String} (h : (ofChars cs).core = expression sql) :
    sql.toList.length ≤ cs.length := by
  induction cs using aliasInduction with
  | whole cs hsplit =>
    rw [ofChars_of_splitAlias_eq_none hsplit] at h
    split at h
    · cases h
    · split at h
      · cases h
        rw [String.toList_ofList]
        exact Text.length_trim_le cs
      · cases h
  | cut cs body label hsplit ih =>
    have hbody := length_lt_of_splitAlias hsplit
    have htrim := Text.length_trim_le cs
    rw [ofChars_of_splitAlias hsplit, withAlias_eq] at h
    have hle := ih h
    omega

/-- A text that is cut does not name itself as an expression. -/
theorem core_ne_of_splitAlias {body : List Char}
    (h : splitAlias (Text.trim cs) = some (body, label)) :
    (ofChars cs).core ≠ expression (String.ofList (Text.trim cs)) := by
  intro hcore
  rw [ofChars_of_splitAlias h, withAlias_eq] at hcore
  have hle : (String.ofList (Text.trim cs)).toList.length ≤ body.length := length_le_of_core hcore
  rw [String.toList_ofList] at hle
  have hlt := length_lt_of_splitAlias h
  omega

/-! ### An alias behind a text -/

/-- Of ` AS ` and what follows, the last ` as ` is the first one, unless the alias begins with
`as ` itself. -/
theorem cutLast_alias (h : Text.holdsWord aliasWord label = false) :
    Text.cutLast aliasWord (" AS ".toList ++ label) =
      if Text.startsWithWord "as ".toList label then some (" AS".toList, label.drop 3)
      else some ([], label) := by
  have hword : aliasWord = ' ' :: "as ".toList := by decide
  have hlabel : Text.cutLast aliasWord label = none :=
    (Text.cutLast_eq_none_iff (by decide)).mpr h
  have hchars : " AS ".toList ++ label = ' ' :: 'A' :: 'S' :: ' ' :: label := rfl
  have hblank : Text.startsWithWord aliasWord (' ' :: label) =
      Text.startsWithWord "as ".toList label := by
    rw [hword, Text.startsWithWord]
    rfl
  have hlast : Text.cutLast aliasWord (' ' :: label) =
      if Text.startsWithWord "as ".toList label then some ([], label.drop 3) else none := by
    rw [Text.cutLast, hlabel]
    simp only [hblank]
    rfl
  have hA : Text.startsWithWord aliasWord ('A' :: 'S' :: ' ' :: label) = false := rfl
  have hS : Text.startsWithWord aliasWord ('S' :: ' ' :: label) = false := rfl
  have hstart : Text.startsWithWord aliasWord (' ' :: 'A' :: 'S' :: ' ' :: label) = true := by
    rw [Text.startsWithWord_iff]
    exact List.prefix_append aliasWord (Text.fold label)
  rw [hchars, Text.cutLast, Text.cutLast, Text.cutLast, hlast]
  by_cases hsecond : Text.startsWithWord "as ".toList label = true
  · rw [if_pos hsecond, if_pos hsecond]
    rfl
  · rw [if_neg hsecond, if_neg hsecond]
    simp only [hA, hS, hstart, if_true, Bool.false_eq_true, if_false]
    rfl

/-- A text that is cut goes, up to the cut, under what stands behind it. -/
theorem ofChars_of_cutLast {before after : List Char}
    (h : Text.cutLast aliasWord (Text.trim cs) = some (before, after))
    (hbefore : Text.allBlank before = false) (hafter : Text.allBlank after = false) :
    ofChars cs = (ofChars before).withAlias (String.ofList after) := by
  have hsplit : splitAlias (Text.trim cs) = some (Text.trim before, Text.trim after) := by
    rw [splitAlias, h]
    simp only [hbefore, hafter, Bool.or_self, Bool.false_eq_true, if_false]
  rw [ofChars_of_splitAlias hsplit, ofChars_trim, withAlias_eq, withAlias_eq,
    unquoteAlias_congr (Text.trim_trim after)]

theorem exists_of_startsWithWord (h : Text.startsWithWord "as ".toList label = true) :
    ∃ x y rest, label = x :: y :: ' ' :: rest ∧ isBlank x = false ∧ isQuote x = false := by
  rw [Text.startsWithWord_iff] at h
  obtain ⟨rest, hrest⟩ := h
  have hchars : "as ".toList ++ rest = 'a' :: 's' :: ' ' :: rest := rfl
  rw [hchars, eq_comm, Text.fold, List.map_eq_cons_iff] at hrest
  obtain ⟨x, ds, rfl, hx, hds⟩ := hrest
  obtain ⟨y, es, rfl, -, hes⟩ := List.map_eq_cons_iff.mp hds
  obtain ⟨z, fs, rfl, hz, -⟩ := List.map_eq_cons_iff.mp hes
  rw [eq_space_of_toLower hz]
  exact ⟨x, y, fs, rfl, isBlank_of_toLower hx⟩

/-- An alias that begins with `as ` begins without a blank, so that trimming its end trims all. -/
theorem exists_of_alias (h : Text.startsWithWord "as ".toList (Text.trimEnd label) = true) :
    ∃ x y rest, Text.trimEnd label = x :: y :: ' ' :: rest ∧
      Text.trim label = x :: y :: ' ' :: rest ∧ isQuote x = false := by
  obtain ⟨x, y, rest, hlabel, hx, hquote⟩ := exists_of_startsWithWord h
  refine ⟨x, y, rest, hlabel, ?_, hquote⟩
  rw [← Text.trimStart_trimEnd, hlabel, Text.trimStart_eq_self]
  intro c hc
  cases hc
  exact hx

/-- What stands behind that `as ` is not blank. -/
theorem allBlank_drop_alias (h : Text.startsWithWord "as ".toList (Text.trimEnd label) = true) :
    Text.allBlank ((Text.trimEnd label).drop 3) = false := by
  obtain ⟨x, y, rest, hend, htrim, -⟩ := exists_of_alias h
  rw [hend]
  rcases List.eq_nil_or_concat rest with rfl | ⟨init, d, rfl⟩
  · have hlast : (Text.trim label).getLast? = some ' ' := by rw [htrim]; rfl
    exact absurd (Text.isBlank_getLast?_trim hlast) (by decide)
  · have hlast : (Text.trim label).getLast? = some d := by
      rw [htrim, List.concat_eq_append]
      exact List.getLast?_concat (l := x :: y :: ' ' :: init)
    exact Text.allBlank_eq_false_of_mem (by simp) (Text.isBlank_getLast?_trim hlast)

/-- And it is shorter, as an alias, than the whole. -/
theorem unquoteAlias_drop_ne (h : Text.startsWithWord "as ".toList (Text.trimEnd label) = true) :
    unquoteAlias (String.ofList ((Text.trimEnd label).drop 3)) ≠
      unquoteAlias (String.ofList label) := by
  obtain ⟨x, y, rest, hend, htrim, hquote⟩ := exists_of_alias h
  have hkeep : (x :: y :: ' ' :: rest).dropWhile isQuote = [x, y] ++ ' ' :: rest := by
    rw [List.dropWhile_cons_of_neg (by simp [hquote])]
    rfl
  have hdrop : (Text.trim rest).dropWhile isQuote <:+: rest :=
    (List.dropWhile_suffix isQuote).isInfix.trans (Text.isInfix_trim rest)
  have hle := Text.length_dropQuotes_le hdrop
  have hlt : (Text.dropQuotes ([x, y] ++ ' ' :: rest)).length =
      [x, y].length + 1 + (Text.dropQuotes rest).length :=
    Text.length_dropQuotes_append (by decide) rest
  intro heq
  rw [unquoteAlias_eq, unquoteAlias_eq, htrim, hend, hkeep, String.ofList_inj] at heq
  have hlength := congrArg List.length heq
  rw [hlt] at hlength
  simp only [List.drop_succ_cons, List.drop_zero] at hlength
  omega

/-- **What an alias behind a text makes of it.**  The text goes under the alias; but if the alias
begins with `as ` then this is taken for the word between them, and the first one stays behind. -/
theorem ofChars_append_alias (hcs : Text.allBlank cs = false) (hlabel : Text.allBlank label = false)
    (hword : Text.holdsWord aliasWord label = false) :
    ofChars (cs ++ " AS ".toList ++ label) =
      if Text.startsWithWord "as ".toList (Text.trimEnd label) then
        (ofChars (cs ++ " AS".toList)).withAlias (String.ofList ((Text.trimEnd label).drop 3))
      else (ofChars cs).withAlias (String.ofList label) := by
  have hstart : Text.trimStart cs ≠ [] := fun hnil => by
    rw [Text.trimStart_eq_nil_iff.mp hnil] at hcs
    cases hcs
  have hword' : Text.holdsWord aliasWord (Text.trimEnd label) = false :=
    Text.not_holdsWord_of_isInfix (Text.trimEnd_isPrefix label).isInfix hword
  have htrim : Text.trim (cs ++ " AS ".toList ++ label) =
      Text.trimStart cs ++ (" AS ".toList ++ Text.trimEnd label) := by
    rw [Text.trim_append_append hcs hlabel, List.append_assoc]
  have hcut := cutLast_alias hword'
  by_cases hsecond : Text.startsWithWord "as ".toList (Text.trimEnd label) = true
  · rw [if_pos hsecond] at hcut ⊢
    have hcut' := Text.cutLast_append hcut (Text.trimStart cs)
    rw [← htrim, ← Text.trimStart_append hstart] at hcut'
    have hbefore : Text.allBlank (Text.trimStart (cs ++ " AS".toList)) = false := by
      rw [Text.trimStart_append hstart]
      exact Text.allBlank_eq_false_of_mem (by simp) (by decide : isBlank 'A' = false)
    rw [ofChars_of_cutLast hcut' hbefore (allBlank_drop_alias hsecond), ← ofChars_trim,
      Text.trim_trimStart, ofChars_trim]
  · rw [if_neg hsecond] at hcut ⊢
    have hcut' := Text.cutLast_append hcut (Text.trimStart cs)
    rw [← htrim, List.append_nil] at hcut'
    have hbefore : Text.allBlank (Text.trimStart cs) = false := by
      rw [← Text.allBlank_trim, Text.trim_trimStart, Text.allBlank_trim, hcs]
    have hafter : Text.allBlank (Text.trimEnd label) = false := by
      rw [← Text.allBlank_trim, Text.trim_trimEnd, Text.allBlank_trim, hlabel]
    rw [ofChars_of_cutLast hcut' hbefore hafter, ← ofChars_trim, Text.trim_trimStart, ofChars_trim,
      withAlias_eq, withAlias_eq, unquoteAlias_congr (Text.trim_trimEnd label)]

/-- The same on strings. -/
theorem parse_append_alias (s label : String) :
    parse (s ++ " AS " ++ label) = ofChars (s.toList ++ " AS ".toList ++ label.toList) := by
  rw [parse, String.toList_append, String.toList_append]

end Field

end FluentSql
