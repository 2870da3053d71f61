import FluentSql.Number.Integer
import FluentSql.Placeholder

/-!
# Texts that leave no quote open

The scan for placeholders reads a whole statement, but a statement is put together from many
pieces.  It can be read piece by piece because every piece leaves no quote open: the scan then meets
each piece in the state in which it met the first one.

## Main definitions

* `Placeholder.Holds` — so many placeholders, and no quote left open.
* `Placeholder.IsClosed`, `Placeholder.IsClean` — no quote left open; no placeholder either.
* `Placeholder.owners` — the marks that the placeholders of a marked text bear.
* `Placeholder.numbered` — a text in which each character is marked with the placeholders before it.

## Main results

* `Placeholder.holds_append`, `Placeholder.holds_intercalate` — pieces side by side.
* `Placeholder.holds_trimmed` — blanks do not matter.
* `Placeholder.clean_quoteIdentifier` — **an identifier holds no placeholder, whatever its name.**
* `Placeholder.owners_numbered` — the placeholders of a text are numbered from zero on.
-/

namespace FluentSql.Placeholder

/-- The text holds so many placeholders and leaves no quote open. -/
def Holds (n : Nat) (s : String) : Prop := scan none s.toList = none ∧ countFrom none s.toList = n

/-- The text leaves no quote open. -/
def IsClosed (s : String) : Prop := scan none s.toList = none

/-- The text leaves no quote open and holds no placeholder. -/
abbrev IsClean (s : String) : Prop := Holds 0 s

instance (n : Nat) (s : String) : Decidable (Holds n s) := inferInstanceAs (Decidable (_ ∧ _))

instance (s : String) : Decidable (IsClosed s) := inferInstanceAs (Decidable (_ = _))

theorem holds_of_isClosed {s : String} (h : IsClosed s) : Holds (count s) s := ⟨h, rfl⟩

/-! ### Pieces side by side -/

theorem holds_empty : Holds 0 "" := ⟨rfl, rfl⟩

theorem holds_append {m n : Nat} {s t : String} (hs : Holds m s) (ht : Holds n t) :
    Holds (m + n) (s ++ t) := by
  refine ⟨?_, ?_⟩
  · rw [String.toList_append, scan_append, hs.1]
    exact ht.1
  · rw [String.toList_append, countFrom_append, hs.1, hs.2, ht.2]

/-- A text after a clean one holds its own placeholders only. -/
theorem holds_append_right {n : Nat} {s t : String} (hs : IsClean s) (ht : Holds n t) :
    Holds n (s ++ t) := by
  have h := holds_append hs ht
  rwa [Nat.zero_add] at h

/-- A text before a clean one holds its own placeholders only. -/
theorem holds_append_left {n : Nat} {s t : String} (hs : Holds n s) (ht : IsClean t) :
    Holds n (s ++ t) :=
  holds_append hs ht

/-- Pieces of so many placeholders each, with clean text between them. -/
theorem holds_intercalate {n : Nat} {separator : String} {ss : List String}
    (hsep : IsClean separator) (h : ∀ s ∈ ss, Holds n s) :
    Holds (ss.length * n) (separator.intercalate ss) := by
  -- the separator stands after a piece only if another one follows
  induction ss with
  | nil =>
    rw [String.intercalate_nil, List.length_nil, Nat.zero_mul]
    exact holds_empty
  | cons s ss ih =>
    have hs := h s List.mem_cons_self
    have hss := ih fun t ht => h t (List.mem_cons_of_mem s ht)
    cases ss with
    | nil =>
      rw [String.intercalate_singleton, List.length_singleton, Nat.one_mul]
      exact hs
    | cons t ss =>
      rw [String.intercalate_cons_cons, List.length_cons, Nat.succ_mul, Nat.add_comm]
      exact holds_append (holds_append_left hs hsep) hss

/-- Clean pieces with clean text between them. -/
theorem clean_intercalate {separator : String} {ss : List String} (hsep : IsClean separator)
    (h : ∀ s ∈ ss, IsClean s) : IsClean (separator.intercalate ss) := by
  have hss := holds_intercalate hsep h
  rwa [Nat.mul_zero] at hss

/-- The same piece several times. -/
theorem holds_replicate {n : Nat} {separator s : String} (hsep : IsClean separator)
    (h : Holds n s) (k : Nat) : Holds (k * n) (separator.intercalate (List.replicate k s)) := by
  have hpiece : ∀ t ∈ List.replicate k s, Holds n t := by
    intro t ht
    rw [List.eq_of_mem_replicate ht]
    exact h
  have hall := holds_intercalate hsep hpiece
  rwa [List.length_replicate] at hall

theorem holds_marks (n : Nat) : Holds n (marks n) := by
  have hmark : Holds 1 "?" := by decide
  have h := holds_replicate (by decide : IsClean ",") hmark n
  rwa [Nat.mul_one] at h

/-! ### Characters that do not matter -/

/-- A character that opens no quote and is no placeholder. -/
def isPlain (c : Char) : Bool := !isQuote c && c != '?'

/-- What is open after some characters is a quote character. -/
theorem isQuote_of_scan {q : Char} {cs : List Char} {quote : Option Char}
    (hquote : ∀ p, quote = some p → isQuote p = true) (h : scan quote cs = some q) :
    isQuote q = true := by
  induction cs generalizing quote with
  | nil => exact hquote q h
  | cons c cs ih =>
    refine ih (fun p hp => ?_) h
    -- one more character closes the quote, keeps it, or opens one of its own
    cases quote with
    | some p' =>
      rw [step] at hp
      split at hp
      · cases hp
      · cases hp
        exact hquote p rfl
    | none =>
      rw [step] at hp
      split at hp
      · cases hp
        assumption
      · cases hp

/-- Plain characters change nothing about what is open. -/
theorem scan_of_isPlain {quote : Option Char} {cs : List Char}
    (hquote : ∀ p, quote = some p → isQuote p = true) (h : ∀ c ∈ cs, isPlain c = true) :
    scan quote cs = quote := by
  induction cs with
  | nil => rfl
  | cons c cs ih =>
    have hc : isQuote c = false := by
      have hplain := h c List.mem_cons_self
      rw [isPlain, Bool.and_eq_true, Bool.not_eq_true'] at hplain
      exact hplain.1
    have hstep : step quote c = quote := by
      cases quote with
      | none => rw [step, hc]; rfl
      | some p =>
        have hne : c ≠ p := fun he => by
          rw [he, hquote p rfl] at hc
          cases hc
        rw [step, if_neg hne]
    rw [scan_cons, hstep]
    exact ih fun d hd => h d (List.mem_cons_of_mem c hd)

theorem countFrom_of_isPlain {quote : Option Char} {cs : List Char}
    (h : ∀ c ∈ cs, isPlain c = true) : countFrom quote cs = 0 := by
  induction cs generalizing quote with
  | nil => rfl
  | cons c cs ih =>
    have hc : (c == '?') = false := by
      have hplain := h c List.mem_cons_self
      rw [isPlain, Bool.and_eq_true, bne, Bool.not_eq_true', Bool.not_eq_true'] at hplain
      exact hplain.2
    rw [countFrom, hc, Bool.and_false, ih fun d hd => h d (List.mem_cons_of_mem c hd)]
    rfl

/-- A text of plain characters is clean. -/
theorem clean_of_isPlain {s : String} (h : ∀ c ∈ s.toList, isPlain c = true) : IsClean s :=
  ⟨scan_of_isPlain (fun _ hp => by cases hp) h, countFrom_of_isPlain h⟩

theorem isPlain_of_isBlank {c : Char} (h : isBlank c = true) : isPlain c = true := by
  have hne : ∀ d : Char, isBlank d = false → c ≠ d := by
    intro d hd he
    rw [he, hd] at h
    cases h
  simp [isPlain, isQuote, hne backtick (by decide), hne singleQuote (by decide),
    hne doubleQuote (by decide), hne '?' (by decide)]

theorem isPlain_of_isDigit {c : Char} (h : c.isDigit = true) : isPlain c = true := by
  have hne : ∀ d : Char, d.isDigit = false → c ≠ d := by
    intro d hd he
    rw [he, hd] at h
    cases h
  simp [isPlain, isQuote, hne backtick (by decide), hne singleQuote (by decide),
    hne doubleQuote (by decide), hne '?' (by decide)]

theorem clean_naturalText (n : Nat) : IsClean (naturalText n) := by
  refine clean_of_isPlain fun c hc => isPlain_of_isDigit ?_
  rw [naturalText, String.toList_ofList] at hc
  exact Nat.isDigit_of_mem_toDigits (by decide) (by decide) hc

/-! ### Trimming -/

/-- Blanks around a text do not matter. -/
theorem holds_trimmed {n : Nat} {s : String} (h : Holds n s) : Holds n (trimmed s) := by
  obtain ⟨front, back, hsplit, hfront, hback⟩ := Text.exists_trim s.toList
  have hfront' : ∀ c ∈ front, isPlain c = true :=
    fun c hc => isPlain_of_isBlank (List.all_eq_true.mp hfront c hc)
  have hback' : ∀ c ∈ back, isPlain c = true :=
    fun c hc => isPlain_of_isBlank (List.all_eq_true.mp hback c hc)
  have hno : ∀ p, (none : Option Char) = some p → isQuote p = true := fun _ hp => by cases hp
  rw [← toList_trimmed] at hsplit
  obtain ⟨hscan, hcount⟩ := h
  rw [hsplit, scan_append, scan_of_isPlain hno hfront', scan_append] at hscan
  rw [hsplit, countFrom_append, scan_of_isPlain hno hfront', countFrom_append,
    countFrom_of_isPlain hfront', countFrom_of_isPlain hback'] at hcount
  -- what is open before the blanks at the end is still open after them
  rw [scan_of_isPlain (fun p hp => isQuote_of_scan hno hp) hback'] at hscan
  exact ⟨hscan, by omega⟩

/-! ### Identifiers -/

/-- No quote character is a placeholder. -/
theorem beq_mark_of_isQuote {q : Char} (hq : isQuote q = true) : (q == '?') = false := by
  rw [beq_eq_false_iff_ne]
  rintro rfl
  exact absurd hq (by decide)

theorem scan_doubled {q : Char} (hq : isQuote q = true) (cs : List Char) :
    scan (some q) (Text.doubled q cs) = some q ∧ countFrom (some q) (Text.doubled q cs) = 0 := by
  induction cs with
  | nil => exact ⟨rfl, rfl⟩
  | cons c cs ih =>
    rw [Text.doubled]
    split
    · -- the first of the two closes the quote, the second one opens it again
      have hopen : step (step (some q) q) q = some q := by
        rw [step, if_pos rfl, step, if_pos hq]
      rw [scan_cons, scan_cons, hopen, countFrom, countFrom, hopen, beq_mark_of_isQuote hq,
        Bool.and_false, Bool.and_false, ih.1, ih.2]
      exact ⟨rfl, rfl⟩
    · rename_i hne
      have hstay : step (some q) c = some q := by rw [step, if_neg hne]
      rw [scan_cons, hstay, countFrom, hstay, ih.1, ih.2]
      exact ⟨rfl, rfl⟩

/-- A text between quotes is clean, whatever it holds. -/
theorem clean_quoted {q : Char} (hq : isQuote q = true) (cs : List Char) :
    IsClean (String.ofList (Text.quoted q cs)) := by
  have hopen : step none q = some q := by rw [step, if_pos hq]
  have hclose : step (some q) q = none := by rw [step, if_pos rfl]
  have hmark : (q == '?') = false := beq_mark_of_isQuote hq
  obtain ⟨hscan, hcount⟩ := scan_doubled hq cs
  refine ⟨?_, ?_⟩
  · rw [String.toList_ofList, Text.quoted, scan_cons, hopen, scan_append, hscan, scan_cons,
      hclose, scan_nil]
  · rw [String.toList_ofList, Text.quoted, countFrom, hopen, countFrom_append, hcount, hscan,
      countFrom, hmark, hclose]
    rfl

/-- **An identifier holds no placeholder and leaves no quote open, whatever its name.** -/
theorem clean_quoteIdentifier (name : String) : IsClean (quoteIdentifier name) :=
  clean_quoted (by decide) _

/-- The same for a qualified name. -/
theorem clean_quoteQualified (name : String) : IsClean (quoteQualified name) := by
  refine clean_intercalate (by decide) fun s hs => ?_
  obtain ⟨part, -, rfl⟩ := List.mem_map.mp hs
  exact clean_quoteIdentifier part

/-! ### Marked texts -/

section Marks

variable {α β : Type}

/-- The marks of the placeholders, in a text whose characters bear marks. -/
def owners : Option Char → List (Char × α) → List α
  | _, [] => []
  | quote, (c, mark) :: cs =>
    (if quote.isNone && c == '?' then [mark] else []) ++ owners (step quote c) cs

/-- The text with each character marked by the number of placeholders before it, counted on from
some number. -/
def numbered : Option Char → Nat → List Char → List (Char × Nat)
  | _, _, [] => []
  | quote, n, c :: cs =>
    (c, n) :: numbered (step quote c) (n + if quote.isNone && c == '?' then 1 else 0) cs

theorem owners_append (quote : Option Char) (cs ds : List (Char × α)) :
    owners quote (cs ++ ds) = owners quote cs ++ owners (scan quote (cs.map Prod.fst)) ds := by
  induction cs generalizing quote with
  | nil => rfl
  | cons c cs ih =>
    rw [List.cons_append, owners, owners, ih, List.append_assoc, List.map_cons, scan_cons]

/-- Other marks on the same text. -/
theorem owners_map (quote : Option Char) (cs : List (Char × α)) (f : α → β) :
    owners quote (cs.map fun c => (c.1, f c.2)) = (owners quote cs).map f := by
  induction cs generalizing quote with
  | nil => rfl
  | cons c cs ih =>
    rw [List.map_cons, owners, owners, ih, List.map_append]
    split <;> rfl

/-- Every placeholder bears a mark. -/
theorem length_owners (quote : Option Char) (cs : List (Char × α)) :
    (owners quote cs).length = countFrom quote (cs.map Prod.fst) := by
  induction cs generalizing quote with
  | nil => rfl
  | cons c cs ih =>
    rw [owners, List.length_append, ih, List.map_cons, countFrom]
    split <;> rfl

theorem map_fst_numbered (quote : Option Char) (n : Nat) (cs : List Char) :
    (numbered quote n cs).map Prod.fst = cs := by
  induction cs generalizing quote n with
  | nil => rfl
  | cons c cs ih => rw [numbered, List.map_cons, ih]

/-- The placeholders of a text are numbered one after the other. -/
theorem owners_numbered (quote : Option Char) (n : Nat) (cs : List Char) :
    owners quote (numbered quote n cs) = List.range' n (countFrom quote cs) := by
  induction cs generalizing quote n with
  | nil => rfl
  | cons c cs ih =>
    rw [numbered, owners, countFrom, ih]
    split
    · rw [Nat.add_comm 1, List.range'_succ]
      rfl
    · rw [Nat.zero_add]
      rfl

end Marks

end FluentSql.Placeholder
