import FluentSql.Text.Blank

/-!
# Cutting text

The places where caller text is cut: at every comma or point, at the last occurrence of a word,
and between blanks.  A word is looked for without regard to the case of ASCII letters.  Only ASCII
letters matter there: no word that is looked for holds a `k` or an `i` followed by a combining dot,
and those are the only texts that have a lower-case form in ASCII without being ASCII themselves.

## Main definitions

* `Text.pieces` — the pieces between the separators, empty ones included.
* `Text.words` — the maximal runs without blanks.
* `Text.fold`, `Text.startsWithWord`, `Text.holdsWord` — comparison without regard to case.
* `Text.cutLast` — what stands before and after the last occurrence of a word.
-/

namespace FluentSql.Text

/-! ### Pieces -/

/-- The pieces between separators, in order.  There is always one more piece than separators, so
the empty text is one empty piece. -/
def pieces (isSeparator : Char → Bool) : List Char → List (List Char)
  | [] => [[]]
  | c :: cs =>
    if isSeparator c then [] :: pieces isSeparator cs
    else match pieces isSeparator cs with
      | [] => [[c]]
      | p :: ps => (c :: p) :: ps

@[simp] theorem pieces_nil (p : Char → Bool) : pieces p [] = [[]] := rfl

theorem pieces_ne_nil (p : Char → Bool) (cs : List Char) : pieces p cs ≠ [] := by
  cases cs with
  | nil => simp
  | cons c cs =>
    rw [pieces]
    split
    · simp
    · split <;> simp

theorem pieces_cons (p : Char → Bool) (c : Char) (cs : List Char) :
    pieces p (c :: cs) =
      if p c then [] :: pieces p cs else (pieces p cs).modifyHead (c :: ·) := by
  rw [pieces]
  split
  · rfl
  · cases h : pieces p cs with
    | nil => exact absurd h (pieces_ne_nil p cs)
    | cons q qs => rfl

/-- A character is a separator or in a piece. -/
theorem isSeparator_or_exists_mem_pieces (p : Char → Bool) {c : Char} {cs : List Char}
    (h : c ∈ cs) : p c = true ∨ ∃ piece ∈ pieces p cs, c ∈ piece := by
  induction cs with
  | nil => cases h
  | cons d cs ih =>
    by_cases hd : p d = true
    · rw [pieces_cons, if_pos hd]
      rcases List.mem_cons.mp h with rfl | h
      · exact Or.inl hd
      · exact (ih h).imp_right fun ⟨piece, hpiece, hc⟩ => ⟨piece, List.mem_cons_of_mem _ hpiece, hc⟩
    · obtain ⟨q, qs, hq⟩ := List.exists_cons_of_ne_nil (pieces_ne_nil p cs)
      rw [pieces_cons, if_neg hd, hq, List.modifyHead_cons]
      rw [hq] at ih
      rcases List.mem_cons.mp h with rfl | h
      · exact Or.inr ⟨c :: q, List.mem_cons_self, List.mem_cons_self⟩
      · refine (ih h).imp_right fun ⟨piece, hpiece, hc⟩ => ?_
        rcases List.mem_cons.mp hpiece with rfl | hpiece
        · exact ⟨d :: piece, List.mem_cons_self, List.mem_cons_of_mem d hc⟩
        · exact ⟨piece, List.mem_cons_of_mem _ hpiece, hc⟩

/-- A text without a separator is one piece. -/
theorem pieces_of_not_isSeparator {p : Char → Bool} {cs : List Char}
    (h : ∀ c ∈ cs, p c = false) : pieces p cs = [cs] := by
  induction cs with
  | nil => rfl
  | cons c cs ih =>
    obtain ⟨hc, hcs⟩ := List.forall_mem_cons.mp h
    rw [pieces_cons, hc, ih hcs]
    rfl

/-- Text without a separator that is added at the end makes the last piece longer. -/
theorem exists_last_piece (p : Char → Bool) (cs : List Char) :
    ∃ qs last, pieces p cs = qs ++ [last] ∧
      ∀ ds, (∀ d ∈ ds, p d = false) → pieces p (cs ++ ds) = qs ++ [last ++ ds] := by
  induction cs with
  | nil => exact ⟨[], [], rfl, fun ds hds => pieces_of_not_isSeparator hds⟩
  | cons c cs ih =>
    obtain ⟨qs, last, hcs, happ⟩ := ih
    by_cases hc : p c = true
    · refine ⟨[] :: qs, last, ?_, fun ds hds => ?_⟩
      · rw [pieces_cons, if_pos hc, hcs, List.cons_append]
      · rw [List.cons_append, pieces_cons, if_pos hc, happ ds hds, List.cons_append]
    · -- the character joins the first piece, which may be the last one too
      cases qs with
      | nil =>
        refine ⟨[], c :: last, ?_, fun ds hds => ?_⟩
        · rw [pieces_cons, if_neg hc, hcs]
          rfl
        · rw [List.cons_append, pieces_cons, if_neg hc, happ ds hds]
          rfl
      | cons q qs =>
        refine ⟨(c :: q) :: qs, last, ?_, fun ds hds => ?_⟩
        · rw [pieces_cons, if_neg hc, hcs]
          rfl
        · rw [List.cons_append, pieces_cons, if_neg hc, happ ds hds]
          rfl

/-- The first piece stands at the beginning. -/
theorem isPrefix_of_pieces {p : Char → Bool} {cs q : List Char} {qs : List (List Char)}
    (h : pieces p cs = q :: qs) : q <+: cs := by
  induction cs generalizing q qs with
  | nil =>
    cases h
    exact List.prefix_refl []
  | cons c cs ih =>
    rw [pieces_cons] at h
    split at h
    · cases h
      exact List.nil_prefix
    · cases hcs : pieces p cs with
      | nil => exact absurd hcs (pieces_ne_nil p cs)
      | cons r rs =>
        rw [hcs] at h
        cases h
        exact (List.prefix_cons_inj c).mpr (ih hcs)

/-- Every piece stands somewhere in the text. -/
theorem isInfix_of_mem_pieces {p : Char → Bool} {cs q : List Char} (h : q ∈ pieces p cs) :
    q <:+: cs := by
  induction cs with
  | nil =>
    rw [pieces_nil, List.mem_singleton] at h
    exact h ▸ List.infix_refl []
  | cons c cs ih =>
    cases hcs : pieces p (c :: cs) with
    | nil => exact absurd hcs (pieces_ne_nil p _)
    | cons r rs =>
      rw [hcs, List.mem_cons] at h
      rcases h with rfl | h
      · exact (isPrefix_of_pieces hcs).isInfix
      · refine List.infix_cons (ih ?_)
        rw [pieces_cons] at hcs
        split at hcs
        · cases hcs
          exact h
        · cases hrest : pieces p cs with
          | nil => exact absurd hrest (pieces_ne_nil p cs)
          | cons q' qs' =>
            rw [hrest] at hcs
            cases hcs
            exact List.mem_cons_of_mem _ h

/-- The pieces hold what the text holds, but for the separators. -/
theorem count_pieces {p : Char → Bool} {c : Char} (hc : p c = false) (cs : List Char) :
    (pieces p cs).flatten.count c = cs.count c := by
  induction cs with
  | nil => rfl
  | cons d cs ih =>
    rw [pieces_cons]
    split
    · rename_i hd
      have hne : d ≠ c := fun h => by rw [h, hc] at hd; cases hd
      rw [List.flatten_cons, List.nil_append, ih, List.count_cons_of_ne hne]
    · cases hcs : pieces p cs with
      | nil => exact absurd hcs (pieces_ne_nil p cs)
      | cons q qs =>
        rw [hcs, List.flatten_cons] at ih
        rw [List.modifyHead_cons, List.flatten_cons, List.cons_append, List.count_cons, ih,
          List.count_cons]

/-- A separator between two texts divides their pieces. -/
theorem pieces_append_cons {p : Char → Bool} {c : Char} (hc : p c = true) (cs ds : List Char) :
    pieces p (cs ++ c :: ds) = pieces p cs ++ pieces p ds := by
  induction cs with
  | nil => rw [List.nil_append, pieces_cons, if_pos hc, pieces_nil, List.singleton_append]
  | cons d cs ih =>
    rw [List.cons_append, pieces_cons, pieces_cons, ih]
    split
    · rw [List.cons_append]
    · cases hcs : pieces p cs with
      | nil => exact absurd hcs (pieces_ne_nil p cs)
      | cons q qs =>
        rw [List.cons_append, List.modifyHead_cons, List.modifyHead_cons, List.cons_append]

/-- What is made of the pieces of several texts, with a separator and a blank between them, is what
is made of the pieces of each, if a blank in front of a piece does not matter. -/
theorem map_pieces_intercalate {α : Type} {f : List Char → α} (hf : ∀ cs, f (' ' :: cs) = f cs)
    {p : Char → Bool} {c : Char} (hblank : p ' ' = false) (hc : p c = true)
    {parts : List (List Char)} (hne : parts ≠ []) :
    (pieces p ([c, ' '].intercalate parts)).map f =
      parts.flatMap fun part => (pieces p part).map f := by
  have hfront : ∀ cs, (pieces p (' ' :: cs)).map f = (pieces p cs).map f := by
    intro cs
    rw [pieces_cons, hblank, if_neg Bool.false_ne_true]
    cases hcs : pieces p cs with
    | nil => exact absurd hcs (pieces_ne_nil p cs)
    | cons q qs => rw [List.modifyHead_cons, List.map_cons, List.map_cons, hf]
  induction parts with
  | nil => exact absurd rfl hne
  | cons part parts ih =>
    cases parts with
    | nil => rw [List.intercalate_singleton, List.flatMap_singleton]
    | cons next rest =>
      have hsplit : [c, ' '].intercalate (part :: next :: rest) =
          part ++ c :: ' ' :: [c, ' '].intercalate (next :: rest) := by
        rw [List.intercalate_cons_cons, List.append_assoc]
        rfl
      rw [hsplit, pieces_append_cons hc, List.map_append, hfront, ih (List.cons_ne_nil _ _),
        List.flatMap_cons (x := part)]

/-- The pieces of a text with the separators between them are the text. -/
theorem intercalate_pieces (c : Char) (cs : List Char) :
    [c].intercalate (pieces (· == c) cs) = cs := by
  induction cs with
  | nil => rfl
  | cons d cs ih =>
    obtain ⟨piece, rest, hpieces⟩ := List.exists_cons_of_ne_nil (pieces_ne_nil (· == c) cs)
    rw [hpieces] at ih
    rw [pieces_cons, hpieces]
    by_cases hd : d = c
    · subst hd
      rw [if_pos (beq_self_eq_true d), List.intercalate_cons_cons, ih]
      rfl
    · rw [if_neg (by simpa using hd), List.modifyHead_cons]
      -- the character stands in front of the first piece, which may be the only one
      cases rest with
      | nil =>
        rw [List.intercalate_singleton] at ih ⊢
        rw [ih]
      | cons next rest =>
        rw [List.intercalate_cons_cons] at ih ⊢
        rw [← ih]
        rfl

/-- A text without its blanks is divided at the same places, if no separator is blank. -/
theorem pieces_dropBlanks {p : Char → Bool} (h : ∀ c, isBlank c = true → p c = false)
    (cs : List Char) : pieces p (dropBlanks cs) = (pieces p cs).map dropBlanks := by
  induction cs with
  | nil => rfl
  | cons c cs ih =>
    rw [pieces_cons]
    by_cases hblank : isBlank c = true
    · rw [dropBlanks_cons_of_isBlank hblank, ih, h c hblank, if_neg Bool.false_ne_true]
      cases pieces p cs with
      | nil => rfl
      | cons q qs =>
        rw [List.modifyHead_cons, List.map_cons, List.map_cons, dropBlanks_cons_of_isBlank hblank]
    · have hkept : isBlank c = false := Bool.of_not_eq_true hblank
      rw [dropBlanks_cons hkept, pieces_cons, ih]
      split
      · rfl
      · cases pieces p cs with
        | nil => rfl
        | cons q qs =>
          rw [List.map_cons, List.modifyHead_cons, List.modifyHead_cons, List.map_cons,
            dropBlanks_cons hkept]

/-- The maximal runs without blanks: the pieces between blanks that are not empty. -/
def words (cs : List Char) : List (List Char) :=
  (pieces isBlank cs).filter fun w => !w.isEmpty

/-! ### Words without regard to case -/

/-- The text with its ASCII letters in lower case. -/
def fold (cs : List Char) : List Char := cs.map Char.toLower

/-- Whether the text begins with a word, the word being given in lower case. -/
def startsWithWord : List Char → List Char → Bool
  | [], _ => true
  | _ :: _, [] => false
  | w :: word, c :: cs => w == c.toLower && startsWithWord word cs

/-- A text begins with a word when its lower-case form does. -/
theorem startsWithWord_iff {word cs : List Char} :
    startsWithWord word cs = true ↔ word <+: fold cs := by
  induction word generalizing cs with
  | nil => simp [startsWithWord]
  | cons w word ih =>
    cases cs with
    | nil => simp [startsWithWord, fold]
    | cons c cs =>
      have hrest : startsWithWord word cs = true ↔ word <+: cs.map Char.toLower := ih
      simp [startsWithWord, fold, List.cons_prefix_cons, hrest]

/-- Whether a word stands anywhere in the text, the word being given in lower case. -/
def holdsWord (word : List Char) : List Char → Bool
  | [] => word.isEmpty
  | c :: cs => startsWithWord word (c :: cs) || holdsWord word cs

theorem startsWithWord_append_cons {word : List Char} {c : Char} (h : c.toLower ∉ word)
    (cs ds : List Char) : startsWithWord word (cs ++ c :: ds) = startsWithWord word cs := by
  induction word generalizing cs with
  | nil => rw [startsWithWord, startsWithWord]
  | cons w word ih =>
    rw [List.mem_cons, not_or] at h
    cases cs with
    | nil => simp [startsWithWord, Ne.symm h.1]
    | cons d cs => rw [List.cons_append, startsWithWord, startsWithWord, ih h.2]

theorem holdsWord_nil {word : List Char} (hne : word ≠ []) : holdsWord word [] = false := by
  rw [holdsWord, List.isEmpty_eq_false_iff]
  exact hne

/-- A word does not begin with a character that it does not hold. -/
theorem holdsWord_cons {word : List Char} {c : Char} (hne : word ≠ []) (h : c.toLower ∉ word)
    (cs : List Char) : holdsWord word (c :: cs) = holdsWord word cs := by
  have hstart : startsWithWord word (c :: cs) = false := by
    cases word with
    | nil => exact absurd rfl hne
    | cons w word => exact startsWithWord_append_cons h [] cs
  rw [holdsWord, hstart, Bool.false_or]

/-- A word does not reach across a character that it does not hold. -/
theorem holdsWord_append_cons {word : List Char} {c : Char} (hne : word ≠ [])
    (h : c.toLower ∉ word) (cs ds : List Char) :
    holdsWord word (cs ++ c :: ds) = (holdsWord word cs || holdsWord word ds) := by
  induction cs with
  | nil => rw [List.nil_append, holdsWord_cons hne h, holdsWord_nil hne, Bool.false_or]
  | cons d cs ih =>
    rw [List.cons_append, holdsWord, holdsWord, ih, ← List.cons_append,
      startsWithWord_append_cons h, Bool.or_assoc]

/-- A text holds a word when the word stands somewhere in its lower-case form. -/
theorem holdsWord_iff {word cs : List Char} : holdsWord word cs = true ↔ word <:+: fold cs := by
  induction cs with
  | nil => simp [holdsWord, fold]
  | cons c cs ih =>
    have hcons : fold (c :: cs) = c.toLower :: fold cs := rfl
    rw [holdsWord, Bool.or_eq_true, startsWithWord_iff, ih, hcons, List.infix_cons_iff]

/-- A text that holds a word has it somewhere, in some case of letters. -/
theorem exists_of_holdsWord {word cs : List Char} (h : holdsWord word cs = true) :
    ∃ before found after, cs = before ++ found ++ after ∧ fold found = word := by
  obtain ⟨s, t, hst⟩ := holdsWord_iff.mp h
  obtain ⟨rest, after, rfl, hrest, -⟩ := List.map_eq_append_iff.mp hst.symm
  obtain ⟨before, found, rfl, -, hfound⟩ := List.map_eq_append_iff.mp hrest
  exact ⟨before, found, after, rfl, hfound⟩

/-- A text holds the words that its parts hold. -/
theorem holdsWord_of_isInfix {word cs ds : List Char} (h : cs <:+: ds)
    (hcs : holdsWord word cs = true) : holdsWord word ds = true :=
  holdsWord_iff.mpr ((holdsWord_iff.mp hcs).trans (h.map _))

theorem not_holdsWord_of_isInfix {word cs ds : List Char} (h : cs <:+: ds)
    (hds : holdsWord word ds = false) : holdsWord word cs = false := by
  rw [Bool.eq_false_iff] at hds ⊢
  exact fun hcs => hds (holdsWord_of_isInfix h hcs)

/-- What stands before and after the last occurrence of a word, the word being given in lower
case.  Occurrences may overlap; the one that begins last counts. -/
def cutLast (word : List Char) : List Char → Option (List Char × List Char)
  | [] => none
  | c :: cs =>
    match cutLast word cs with
    | some (before, after) => some (c :: before, after)
    | none =>
      if startsWithWord word (c :: cs) then some ([], (c :: cs).drop word.length) else none

/-- A cut takes out the word, and the word does not begin again behind its first character. -/
theorem eq_of_cutLast {word cs before after : List Char}
    (h : cutLast word cs = some (before, after)) :
    ∃ found, cs = before ++ (found ++ after) ∧ fold found = word ∧
      cutLast word (found ++ after).tail = none := by
  induction cs generalizing before with
  | nil => cases h
  | cons c cs ih =>
    rw [cutLast] at h
    split at h
    · rename_i b a hb
      cases h
      obtain ⟨found, rfl, hfound, hlast⟩ := ih hb
      exact ⟨found, rfl, hfound, hlast⟩
    · rename_i hlast
      split at h
      · rename_i hword
        cases h
        have hfound : fold ((c :: cs).take word.length) = word := by
          rw [fold, List.map_take]
          exact (List.prefix_iff_eq_take.mp (startsWithWord_iff.mp hword)).symm
        refine ⟨(c :: cs).take word.length, ?_, hfound, ?_⟩
        · rw [List.take_append_drop, List.nil_append]
        · rw [List.take_append_drop]
          exact hlast
      · cases h

/-- Neither part of a cut is longer than the text; what is before and the word fit into it. -/
theorem length_of_cutLast {word cs before after : List Char}
    (h : cutLast word cs = some (before, after)) :
    before.length + word.length + after.length = cs.length := by
  obtain ⟨found, rfl, hfound, -⟩ := eq_of_cutLast h
  rw [← hfound, fold, List.length_map, List.length_append, List.length_append, Nat.add_assoc]

/-- There is nothing to cut at exactly if the text does not hold the word. -/
theorem cutLast_eq_none_iff {word cs : List Char} (hne : word ≠ []) :
    cutLast word cs = none ↔ holdsWord word cs = false := by
  induction cs with
  | nil =>
    rw [holdsWord_nil hne, cutLast]
    exact iff_of_true rfl rfl
  | cons c cs ih =>
    rw [cutLast, holdsWord, Bool.or_eq_false_iff, ← ih]
    cases hcs : cutLast word cs with
    | some cut => simp
    | none => simp

/-- The last occurrence in a text is the last one of all that stands before it too. -/
theorem cutLast_append {word ds before after : List Char}
    (h : cutLast word ds = some (before, after)) (cs : List Char) :
    cutLast word (cs ++ ds) = some (cs ++ before, after) := by
  induction cs with
  | nil => exact h
  | cons c cs ih => rw [List.cons_append, cutLast, ih, List.cons_append]

/-- A text is cut where the word stands, if it does not begin again behind its first character. -/
theorem cutLast_of_last {word found after : List Char} (hne : word ≠ [])
    (hfound : fold found = word) (hlast : cutLast word (found ++ after).tail = none)
    (before : List Char) : cutLast word (before ++ (found ++ after)) = some (before, after) := by
  have hstart : startsWithWord word (found ++ after) = true := by
    rw [startsWithWord_iff, ← hfound, fold, fold, List.map_append]
    exact List.prefix_append _ _
  have hlength : word.length = found.length := by rw [← hfound, fold, List.length_map]
  have hcut : cutLast word (found ++ after) = some ([], after) := by
    cases hcs : found ++ after with
    | nil =>
      rw [List.append_eq_nil_iff] at hcs
      rw [hcs.1] at hfound
      exact absurd hfound.symm hne
    | cons c cs =>
      rw [hcs, List.tail_cons] at hlast
      rw [hcs] at hstart
      rw [cutLast, hlast, if_pos hstart, ← hcs, hlength, List.drop_left]
  have happend := cutLast_append hcut before
  rwa [List.append_nil] at happend

end FluentSql.Text
