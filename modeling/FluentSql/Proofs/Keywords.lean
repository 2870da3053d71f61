import FluentSql.Comparison
import FluentSql.Proofs.Aliases

/-!
# Words in any case of letters

A connective that is given by a token is looked for in the upper-case form of the token, and the
upper-case map is that of Unicode, where `ß`, `ı` and `ﬀ` lead to letters of ASCII as well: to S, I
and F.  The other capitals are the upper-case forms of themselves and of their small letters, and no
longer upper-case form consists of them alone.  So a token says a connective exactly if the word
stands in it in some case of the letters of ASCII, with nothing but blanks around it.

## Main definitions

* `Text.plainCapitals` — the capitals of ASCII without F, I and S.
* `Connective.IsSaidBy`, `Connective.said?` — the connective that a token says.

## Main results

* `Text.uppercase_eq_iff` — which texts have a word of such capitals for their upper-case form.
* `Connective.isSaidBy_iff` — a token is compared without the blanks around it.
* `Connective.parse_eq` — **a token is read as the connective that it says.**
-/

namespace FluentSql

/-! ### Upper-case forms -/

namespace Text

/-- The capitals that only themselves and their small letters lead to. -/
def plainCapitals : List Char := "ABCDEGHJKLMNOPQRTUVWXYZ".toList

variable {c d : Char} {cs word : List Char}

/-- A run that leads to such a capital leads there from the small letter. -/
theorem code_of_covers {r : Uppercase.Run} (hr : r ∈ Uppercase.runs) (hd : d ∈ plainCapitals)
    (h : r.covers (d.toNat - r.offset).toNat = true) :
    (d.toNat - r.offset).toNat = d.toNat + 32 := by
  have hall : (Uppercase.runs.all fun r => plainCapitals.all fun d =>
      !r.covers (d.toNat - r.offset).toNat || (d.toNat - r.offset).toNat == d.toNat + 32) =
        true := by
    decide +kernel
  have hrun := List.all_eq_true.mp (List.all_eq_true.mp hall r hr) d hd
  rw [h, Bool.not_true, Bool.false_or] at hrun
  exact beq_iff_eq.mp hrun

/-- An upper-case form of several characters has a character in it that is none of them. -/
theorem exists_other_of_expansion {e : Nat × List Nat} (he : e ∈ Uppercase.expansions) :
    ∃ n ∈ e.2, Char.ofNat n ∉ plainCapitals := by
  have hall : (Uppercase.expansions.all fun e => e.2.any fun n =>
      !plainCapitals.contains (Char.ofNat n)) = true := by
    decide +kernel
  obtain ⟨n, hn, hother⟩ := List.any_eq_true.mp (List.all_eq_true.mp hall e he)
  refine ⟨n, hn, fun hmem => ?_⟩
  rw [List.contains_iff_mem.mpr hmem] at hother
  cases hother

/-- The code of the small letter, and the upper-case forms of both. -/
theorem upper_of_mem (hd : d ∈ plainCapitals) :
    65 ≤ d.toNat ∧ d.toLower.toNat = d.toNat + 32 ∧ upper d = [d] ∧ upper d.toLower = [d] := by
  have hall : (plainCapitals.all fun d => decide (65 ≤ d.toNat ∧
      d.toLower.toNat = d.toNat + 32 ∧ upper d = [d] ∧ upper d.toLower = [d])) = true := by
    decide +kernel
  exact of_decide_eq_true (List.all_eq_true.mp hall d hd)

/-- Both letters have the capital for their upper-case form. -/
theorem upper_of_toLower (hd : d ∈ plainCapitals) (h : c.toLower = d.toLower) : upper c = [d] := by
  obtain ⟨-, hcode, hcapital, hsmall⟩ := upper_of_mem hd
  rcases eq_or_of_toLower h with rfl | ⟨-, -, hc⟩
  · exact hsmall
  · have heq : c = d := Char.toNat_inj.mp (by omega)
    rw [heq, hcapital]

/-- A code that no character has gives the character zero. -/
theorem code_ofNat {n : Nat} (h : 0 < (Char.ofNat n).toNat) : (Char.ofNat n).toNat = n := by
  by_cases hvalid : n.isValidChar
  · rw [Char.ofNat, dif_pos hvalid]
    rfl
  · rw [Char.ofNat, dif_neg hvalid] at h
    exact absurd h (by decide)

/-- A character that a run leads to such a capital is its small letter. -/
theorem toLower_of_covers {r : Uppercase.Run} (hr : r ∈ Uppercase.runs)
    (hcovers : r.covers c.toNat = true) (hd : Char.ofNat (c.toNat + r.offset).toNat = d)
    (hmem : d ∈ plainCapitals) : c.toLower = d.toLower := by
  obtain ⟨hlow, hsmall, -, -⟩ := upper_of_mem hmem
  have hcode : d.toNat = (c.toNat + r.offset).toNat := by
    subst hd
    exact code_ofNat (by omega)
  have hback : (d.toNat - r.offset).toNat = c.toNat := by omega
  have hc : c.toNat = d.toNat + 32 := by
    rw [← hback] at hcovers ⊢
    exact code_of_covers hr hmem hcovers
  have heq : d.toLower = c := Char.toNat_inj.mp (by omega)
  rw [heq]
  rcases eq_or_of_toLower (c := c) rfl with hsame | ⟨-, hhigh, -⟩
  · exact hsame.symm
  · omega

/-- A character whose upper-case form has nothing but such capitals in it is a capital or its small
letter. -/
theorem upper_of_forall_mem (h : ∀ d ∈ upper c, d ∈ plainCapitals) :
    ∃ d, upper c = [d] ∧ c.toLower = d.toLower := by
  unfold upper at h ⊢
  cases hrun : Uppercase.runs.find? fun r => r.covers c.toNat with
  | some r =>
    simp only [hrun, List.mem_singleton, forall_eq] at h ⊢
    have hcovers : r.covers c.toNat = true := by simpa using List.find?_some hrun
    exact ⟨_, rfl, toLower_of_covers (List.mem_of_find?_eq_some hrun) hcovers rfl h⟩
  | none =>
    cases hns : Uppercase.expansions.lookup c.toNat with
    | some ns =>
      simp only [hrun, hns] at h
      obtain ⟨front, back, hlist, -⟩ := List.lookup_eq_some_iff.mp hns
      have hmem : (c.toNat, ns) ∈ Uppercase.expansions := by rw [hlist]; simp
      obtain ⟨n, hn, hother⟩ := exists_other_of_expansion hmem
      exact absurd (h _ (List.mem_map_of_mem hn)) hother
    | none => exact ⟨c, rfl, rfl⟩

/-- **A word of such capitals is the upper-case form of the texts that differ from it in the case
of letters.** -/
theorem uppercase_eq_iff (hword : ∀ d ∈ word, d ∈ plainCapitals) :
    uppercase cs = word ↔ fold cs = fold word := by
  induction cs generalizing word with
  | nil =>
    constructor
    · rintro rfl
      rfl
    · intro h
      exact (List.map_eq_nil_iff.mp h.symm).symm
  | cons c cs ih =>
    rw [uppercase_cons]
    constructor
    · intro h
      rw [← h] at hword ⊢
      obtain ⟨d, hd, hlower⟩ := upper_of_forall_mem fun d hd => hword d (List.mem_append_left _ hd)
      have hrest : fold cs = fold (uppercase cs) :=
        (ih fun e he => hword e (List.mem_append_right _ he)).mp rfl
      rw [hd]
      show c.toLower :: fold cs = d.toLower :: fold (uppercase cs)
      rw [hlower, hrest]
    · intro h
      cases word with
      | nil => cases h
      | cons d word =>
        obtain ⟨hd, hrest⟩ := List.forall_mem_cons.mp hword
        obtain ⟨hlower, hfold⟩ := List.cons.inj h
        rw [upper_of_toLower hd hlower, (ih hrest).mpr hfold]
        rfl

end Text

/-! ### Tokens -/

namespace Connective

/-- The word of a connective, in small letters. -/
def word : Connective → List Char
  | and => "and".toList
  | or => "or".toList
  | not => "not".toList

/-- A token says a connective: the word stands in it, in some case of letters, with nothing but
blanks around it. -/
def IsSaidBy (c : Connective) (token : String) : Prop :=
  ∃ front found back, token.toList = front ++ (found ++ back) ∧ Text.allBlank front = true ∧
    Text.allBlank back = true ∧ Text.fold found = c.word

variable {c : Connective} {token : String}

theorem isSaidBy_iff : c.IsSaidBy token ↔ Text.fold (Text.trim token.toList) = c.word := by
  have hword : c.word.any isBlank = false := by cases c <;> decide
  constructor
  · rintro ⟨front, found, back, htoken, hfront, hback, hfound⟩
    have hkept : ∀ d ∈ found, isBlank d = false := by
      intro d hd
      by_contra hblank
      have hmem : d.toLower ∈ c.word := hfound ▸ List.mem_map_of_mem hd
      rw [Text.toLower_of_isBlank (Bool.of_not_eq_false hblank)] at hmem
      exact List.any_eq_false.mp hword d hmem (Bool.of_not_eq_false hblank)
    rw [htoken, Text.trim_of_allBlank hfront hback, Text.trim_eq_self hkept, hfound]
  · intro h
    obtain ⟨front, back, htoken, hfront, hback⟩ := Text.exists_trim token.toList
    exact ⟨front, _, back, htoken, hfront, hback, h⟩

instance (c : Connective) (token : String) : Decidable (c.IsSaidBy token) :=
  decidable_of_iff (Text.fold (Text.trim token.toList) = c.word) isSaidBy_iff.symm

/-- The connective that a token says, if it says one. -/
def said? (token : String) : Option Connective :=
  [and, or, not].find? fun c => c.IsSaidBy token

theorem text_eq_keyword_iff : c.text = keyword token ↔ c.IsSaidBy token := by
  have hall : c.text.toList.all Text.plainCapitals.contains = true := by cases c <;> decide
  have hplain : ∀ d ∈ c.text.toList, d ∈ Text.plainCapitals :=
    fun d hd => List.contains_iff_mem.mp (List.all_eq_true.mp hall d hd)
  have hword : Text.fold c.text.toList = c.word := by cases c <;> decide
  rw [isSaidBy_iff, ← hword, ← Text.uppercase_eq_iff hplain, keyword, ← String.toList_inj,
    String.toList_ofList, eq_comm]

/-- **A token is read as the connective that it says**, and refused if it says none. -/
theorem parse_eq (token : String) :
    parse token = (said? token).elim (.error (.unknownOperator token)) .ok := by
  have hfind : all.find? (fun c => c.text = keyword token) = said? token := by
    simp only [all, said?, text_eq_keyword_iff]
  rw [parse, hfind]
  cases said? token <;> rfl

/-- The case of the letters and the blanks around them do not count. -/
example : said? " Or\t" = some .or ∧ said? "xor" = none := by decide

end Connective

end FluentSql
