/-!
# Blank characters and trimming

Caller text is trimmed before it is classified, quoted or compared, and a text that holds nothing
but blanks counts as missing.  *Blank* is the Unicode property `White_Space`: the zero width space
U+200B and the byte order mark U+FEFF are not blank, the no-break space U+00A0 is.

Algorithms on text work on `List Char`, so that every cut falls between two characters; the API
takes and returns `String`.

## Main definitions

* `isBlank` — the white space characters.
* `Text.trimStart`, `Text.trimEnd`, `Text.trim` — drop blanks at the ends.
* `Text.allBlank` — nothing but blanks.
* `trimmed`, `isBlankText` — the same on strings.

## Main results

* `Text.trim_eq_nil_iff` — trimming leaves nothing exactly when there are only blanks.
* `Text.trim_trim` — trimming again changes nothing.
-/

namespace FluentSql

/-- The characters with the Unicode property `White_Space`. -/
def isBlank (c : Char) : Bool :=
  let n := c.toNat
  (9 ≤ n && n ≤ 13) || n == 0x20 || n == 0x85 || n == 0xA0 || n == 0x1680
    || (0x2000 ≤ n && n ≤ 0x200A) || n == 0x2028 || n == 0x2029 || n == 0x202F
    || n == 0x205F || n == 0x3000

namespace Text

/-! ### Trimming -/

/-- Drop the blanks in front. -/
def trimStart (cs : List Char) : List Char := cs.dropWhile isBlank

/-- Drop the blanks at the end. -/
def trimEnd (cs : List Char) : List Char := (cs.reverse.dropWhile isBlank).reverse

/-- Drop the blanks at both ends. -/
def trim (cs : List Char) : List Char := trimEnd (trimStart cs)

/-- Whether there is nothing but blanks. -/
def allBlank (cs : List Char) : Bool := cs.all isBlank

@[simp] theorem trimStart_nil : trimStart [] = [] := rfl

@[simp] theorem trimEnd_nil : trimEnd [] = [] := rfl

@[simp] theorem trim_nil : trim [] = [] := rfl

theorem trimStart_suffix (cs : List Char) : trimStart cs <:+ cs := List.dropWhile_suffix isBlank

theorem trimEnd_isPrefix (cs : List Char) : trimEnd cs <+: cs := by
  rw [← List.reverse_suffix]
  simpa [trimEnd] using List.dropWhile_suffix isBlank

theorem isInfix_trim (cs : List Char) : trim cs <:+: cs :=
  (trimEnd_isPrefix _).isInfix.trans (trimStart_suffix cs).isInfix

theorem length_trim_le (cs : List Char) : (trim cs).length ≤ cs.length :=
  Nat.le_trans (trimEnd_isPrefix _).length_le (trimStart_suffix _).length_le

theorem trimStart_eq_nil_iff {cs : List Char} : trimStart cs = [] ↔ allBlank cs = true := by
  induction cs with
  | nil => simp [allBlank]
  | cons c cs ih =>
    by_cases hc : isBlank c = true
    · rw [trimStart, List.dropWhile_cons_of_pos hc, ← trimStart, ih, allBlank, allBlank,
        List.all_cons, hc, Bool.true_and]
    · simp [trimStart, allBlank, hc]

theorem trimEnd_eq_nil_iff {cs : List Char} : trimEnd cs = [] ↔ allBlank cs = true := by
  rw [trimEnd, List.reverse_eq_nil_iff, ← trimStart, trimStart_eq_nil_iff, allBlank,
    List.all_reverse, ← allBlank]

/-- Trimming leaves nothing exactly when there was nothing but blanks. -/
theorem trim_eq_nil_iff (cs : List Char) : trim cs = [] ↔ allBlank cs = true := by
  have hstart : trimStart cs = [] ↔ allBlank cs = true := trimStart_eq_nil_iff
  rw [trim, trimEnd_eq_nil_iff, ← hstart]
  constructor
  · intro hall
    -- a first character that stays would itself be blank
    cases hs : trimStart cs with
    | nil => rfl
    | cons c rest =>
      have hc : isBlank c = true := List.all_eq_true.mp hall c (by simp [hs])
      have hn := List.head?_dropWhile_not isBlank cs
      simp only [trimStart] at hs
      simp [hs, hc] at hn
  · intro hnil
    rw [hnil]
    rfl

theorem allBlank_eq_false_of_mem {cs : List Char} {c : Char} (h : c ∈ cs)
    (hc : isBlank c = false) : allBlank cs = false := by
  rw [Bool.eq_false_iff]
  intro hall
  rw [List.all_eq_true.mp hall c h] at hc
  cases hc

/-- A text that begins without a blank is not changed at its start. -/
theorem trimStart_eq_self {cs : List Char} (h : ∀ c, cs.head? = some c → isBlank c = false) :
    trimStart cs = cs := by
  cases cs with
  | nil => rfl
  | cons c cs => simp [trimStart, h c rfl]

/-- A text that ends without a blank is not changed at its end. -/
theorem trimEnd_eq_self {cs : List Char} (h : ∀ c, cs.getLast? = some c → isBlank c = false) :
    trimEnd cs = cs := by
  have hstart : trimStart cs.reverse = cs.reverse := by
    refine trimStart_eq_self fun c hc => h c ?_
    rwa [List.head?_reverse] at hc
  rw [trimEnd]
  exact List.reverse_eq_iff.mpr hstart

/-- A text without blanks is not changed. -/
theorem trim_eq_self {cs : List Char} (h : ∀ c ∈ cs, isBlank c = false) : trim cs = cs := by
  rw [trim, trimStart_eq_self fun c hc => h c (List.mem_of_mem_head? hc),
    trimEnd_eq_self fun c hc => h c (List.mem_of_getLast? hc)]

/-- The blanks in front of a text that has others than blanks are those of its first part. -/
theorem trimStart_append {cs : List Char} (h : trimStart cs ≠ []) (ds : List Char) :
    trimStart (cs ++ ds) = trimStart cs ++ ds := by
  rw [trimStart, List.dropWhile_append, if_neg]
  · rfl
  · rw [List.isEmpty_iff]
    exact h

/-- The blanks behind a text that has others than blanks are those of its last part. -/
theorem trimEnd_append {ds : List Char} (h : trimEnd ds ≠ []) (cs : List Char) :
    trimEnd (cs ++ ds) = cs ++ trimEnd ds := by
  have hstart : trimStart ds.reverse ≠ [] :=
    fun hnil => h (by rw [trimEnd, ← trimStart, hnil, List.reverse_nil])
  rw [trimEnd, List.reverse_append, ← trimStart, trimStart_append hstart, List.reverse_append,
    List.reverse_reverse]
  rfl

/-- Between texts that have others than blanks nothing is trimmed away. -/
theorem trim_append_append {front back : List Char} (hfront : allBlank front = false)
    (hback : allBlank back = false) (mid : List Char) :
    trim (front ++ mid ++ back) = trimStart front ++ mid ++ trimEnd back := by
  have hstart : trimStart front ≠ [] := fun h => by
    rw [trimStart_eq_nil_iff.mp h] at hfront
    cases hfront
  have hend : trimEnd back ≠ [] := fun h => by
    rw [trimEnd_eq_nil_iff.mp h] at hback
    cases hback
  rw [trim, List.append_assoc, trimStart_append hstart, ← List.append_assoc, trimEnd_append hend]

/-- What is left after trimming begins without a blank. -/
theorem isBlank_head?_trim {cs : List Char} {c : Char} (h : (trim cs).head? = some c) :
    isBlank c = false := by
  have hn := List.head?_dropWhile_not isBlank cs
  have hp : trim cs <+: trimStart cs := trimEnd_isPrefix _
  obtain ⟨rest, hrest⟩ := hp
  cases ht : trim cs with
  | nil => simp [ht] at h
  | cons d ds =>
    rw [ht] at h hrest
    simp only [trimStart] at hrest
    rw [← hrest] at hn
    simp only [List.head?_cons, Option.some.injEq] at h
    subst h
    simpa using hn

/-- And ends without one. -/
theorem isBlank_getLast?_trim {cs : List Char} {c : Char} (h : (trim cs).getLast? = some c) :
    isBlank c = false := by
  have hn := List.head?_dropWhile_not isBlank (trimStart cs).reverse
  rw [trim, trimEnd, List.getLast?_reverse] at h
  simpa [h] using hn

theorem trimStart_trimStart (cs : List Char) : trimStart (trimStart cs) = trimStart cs := by
  refine trimStart_eq_self fun c hc => ?_
  have hn := List.head?_dropWhile_not isBlank cs
  rw [trimStart] at hc
  simpa [hc] using hn

/-- Trimming again changes nothing. -/
@[simp] theorem trim_trim (cs : List Char) : trim (trim cs) = trim cs := by
  have hend : ∀ ds : List Char, trimEnd (trimEnd ds) = trimEnd ds := by
    intro ds
    have hstart := trimStart_trimStart ds.reverse
    rw [trimEnd, trimEnd, List.reverse_reverse]
    exact congrArg List.reverse hstart
  rw [trim, trimStart_eq_self fun c hc => isBlank_head?_trim hc, trim, hend]

theorem trim_trimStart (cs : List Char) : trim (trimStart cs) = trim cs := by
  rw [trim, trimStart_trimStart, ← trim]

/-- The two ends can be trimmed in any order. -/
theorem trimStart_trimEnd (cs : List Char) : trimStart (trimEnd cs) = trim cs := by
  by_cases hblank : allBlank cs = true
  · rw [trimEnd_eq_nil_iff.mpr hblank, (trim_eq_nil_iff cs).mpr hblank]
    rfl
  · have hne : trimEnd (trimStart cs) ≠ [] := fun h => hblank ((trim_eq_nil_iff cs).mp h)
    have hcut : trimEnd cs = cs.takeWhile isBlank ++ trim cs := by
      conv => lhs; rw [← List.takeWhile_append_dropWhile (p := isBlank) (l := cs)]
      exact trimEnd_append hne _
    rw [hcut, trimStart, List.dropWhile_append_of_pos (List.all_eq_true.mp List.all_takeWhile),
      ← trimStart, trimStart_eq_self fun c hc => isBlank_head?_trim hc]

theorem trim_trimEnd (cs : List Char) : trim (trimEnd cs) = trim cs := by
  have hend := trim_trim cs
  rw [trim, trimStart_eq_self fun c hc => isBlank_head?_trim hc] at hend
  rw [trim, trimStart_trimEnd, hend]

/-- Blanks around a text are trimmed away with its own. -/
theorem trim_of_allBlank {front back : List Char} (hfront : allBlank front = true)
    (hback : allBlank back = true) (mid : List Char) :
    trim (front ++ (mid ++ back)) = trim mid := by
  have hend : trimEnd (mid ++ back) = trimEnd mid := by
    have hreverse : ∀ c ∈ back.reverse, isBlank c = true := by
      intro c hc
      exact List.all_eq_true.mp hback c (List.mem_reverse.mp hc)
    rw [trimEnd, List.reverse_append, List.dropWhile_append_of_pos hreverse, ← trimEnd]
  rw [trim, trimStart, List.dropWhile_append_of_pos (List.all_eq_true.mp hfront), ← trimStart,
    ← trim, ← trimStart_trimEnd, hend, trimStart_trimEnd]

/-- What is trimmed away are blanks. -/
theorem exists_trim (cs : List Char) :
    ∃ front back, cs = front ++ (trim cs ++ back) ∧ allBlank front = true ∧
      allBlank back = true := by
  have hstart : ∀ ds : List Char, ds = ds.takeWhile isBlank ++ trimStart ds :=
    fun ds => List.takeWhile_append_dropWhile.symm
  have hend : ∀ ds : List Char, ds = trimEnd ds ++ (ds.reverse.takeWhile isBlank).reverse := by
    intro ds
    rw [trimEnd, ← List.reverse_append, ← trimStart, ← hstart, List.reverse_reverse]
  refine ⟨cs.takeWhile isBlank, ((trimStart cs).reverse.takeWhile isBlank).reverse, ?_,
    List.all_takeWhile, ?_⟩
  · rw [trim, ← hend, ← hstart]
  · rw [allBlank, List.all_reverse]
    exact List.all_takeWhile

/-- A character that is not blank is not trimmed away. -/
theorem count_trim {c : Char} (hc : isBlank c = false) (cs : List Char) :
    (trim cs).count c = cs.count c := by
  have hstart : ∀ ds : List Char, (ds.dropWhile isBlank).count c = ds.count c := by
    intro ds
    induction ds with
    | nil => rfl
    | cons d ds ih =>
      by_cases hd : isBlank d = true
      · have hne : d ≠ c := fun h => by rw [h, hc] at hd; cases hd
        rw [List.dropWhile_cons_of_pos hd, ih, List.count_cons_of_ne hne]
      · rw [List.dropWhile_cons_of_neg hd]
  rw [trim, trimEnd, List.count_reverse, hstart, List.count_reverse, trimStart, hstart]

theorem mem_trim {c : Char} (hc : isBlank c = false) {cs : List Char} : c ∈ trim cs ↔ c ∈ cs := by
  rw [← List.count_pos_iff, count_trim hc, List.count_pos_iff]

/-! ### Dropping all blanks -/

/-- The text without any blank. -/
def dropBlanks (cs : List Char) : List Char := cs.filter fun c => !isBlank c

theorem isBlank_of_mem_dropBlanks {cs : List Char} {c : Char} (h : c ∈ dropBlanks cs) :
    isBlank c = false := by
  simpa using (List.mem_filter.mp h).2

/-- A character that is not blank stays. -/
theorem mem_dropBlanks {c : Char} (hc : isBlank c = false) {cs : List Char} :
    c ∈ dropBlanks cs ↔ c ∈ cs := by
  rw [dropBlanks, List.mem_filter, hc]
  simp

theorem dropBlanks_append (cs ds : List Char) :
    dropBlanks (cs ++ ds) = dropBlanks cs ++ dropBlanks ds := List.filter_append ..

theorem dropBlanks_cons_of_isBlank {c : Char} (hc : isBlank c = true) (cs : List Char) :
    dropBlanks (c :: cs) = dropBlanks cs := List.filter_cons_of_neg (by simp [hc])

theorem dropBlanks_cons {c : Char} (hc : isBlank c = false) (cs : List Char) :
    dropBlanks (c :: cs) = c :: dropBlanks cs := List.filter_cons_of_pos (by simp [hc])

/-- Nothing is left exactly when there was nothing but blanks. -/
theorem dropBlanks_eq_nil_iff {cs : List Char} : dropBlanks cs = [] ↔ allBlank cs = true := by
  simp [dropBlanks, allBlank]

/-- A text without blanks is not trimmed. -/
theorem trim_dropBlanks (cs : List Char) : trim (dropBlanks cs) = dropBlanks cs := by
  rw [trim, trimStart_eq_self fun c hc => isBlank_of_mem_dropBlanks (List.mem_of_mem_head? hc)]
  exact trimEnd_eq_self fun c hc => isBlank_of_mem_dropBlanks (List.mem_of_getLast? hc)

/-- Nor does it matter whether blanks at the ends are trimmed before. -/
theorem dropBlanks_trim (cs : List Char) : dropBlanks (trim cs) = dropBlanks cs := by
  obtain ⟨front, back, hcs, hfront, hback⟩ := exists_trim cs
  conv => rhs; rw [hcs]
  rw [dropBlanks_append, dropBlanks_append, dropBlanks_eq_nil_iff.mpr hfront,
    dropBlanks_eq_nil_iff.mpr hback, List.nil_append, List.append_nil]

end Text

/-! ### On strings -/

/-- The text without the blanks at its ends. -/
def trimmed (s : String) : String := String.ofList (Text.trim s.toList)

/-- Whether a text holds nothing but blanks. -/
def isBlankText (s : String) : Bool := Text.allBlank s.toList

@[simp] theorem toList_trimmed (s : String) : (trimmed s).toList = Text.trim s.toList := by
  simp [trimmed]

theorem trimmed_trimmed (s : String) : trimmed (trimmed s) = trimmed s := by
  rw [trimmed, toList_trimmed, Text.trim_trim, ← trimmed]

end FluentSql
