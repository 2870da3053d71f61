import FluentSql.Json.Printer
import FluentSql.Json.Reader
import Mathlib.Data.Nat.Digits.Defs

/-!
# Documents that are read back

What is written as JSON is read as the document that it was made for, whatever follows it: each
character of a text is one part of it, however it is escaped, the digits of a number end where no
digit follows, and the members of an object come back in their order.

## Main definitions

* `Json.Numeral.Ends` — what follows does not go on with a numeral.
* `Document.ReadsAs` — what a text is read as, wherever it stands.

## Main results

* `Document.readText_escape` — **a text is read back**, whatever characters it holds.
* `Document.readsAs_writeText`, `Document.readsAs_null`, `Document.readsAs_naturalText`.
* `Document.read?_writeObject` — **an object is read back** member by member.
-/

namespace FluentSql

/-! ### Texts -/

namespace Document

/-- A unit below the surrogates is a character of its own. -/
theorem characters?_code {n : Nat} (h : n < 0xD800) (us : List Unit16) :
    characters? (.code n :: us) = (characters? us).map (Char.ofNat n :: ·) := by
  have hhigh : ¬(0xD800 ≤ n) := by omega
  have hlow : ¬(0xDC00 ≤ n) := by omega
  cases us with
  | nil => simp [characters?, hhigh]
  | cons u us => cases u <;> simp [characters?, hhigh, hlow]

theorem hexValue?_hexDigit (n : Nat) : hexValue? (Json.hexDigit n) = some (n % 16) := by
  have hdigits : ∀ k < 16, hexValue? (Nat.digitChar k) = some k := by decide
  exact hdigits _ (Nat.mod_lt n (by decide))

/-- The digits that a control character is written with are its code. -/
theorem hexValue4?_hexDigit {n : Nat} (h : n < 0x20) :
    hexValue4? '0' '0' (Json.hexDigit (n / 16)) (Json.hexDigit n) = some n := by
  have hzero : hexValue? '0' = some 0 := by decide
  simp only [hexValue4?, hzero, hexValue?_hexDigit, Option.bind_eq_bind, Option.bind_some,
    Option.pure_def, Option.some_inj]
  omega

/-- A character behind a backslash that is a short escape. -/
theorem readUnits_shortEscape {e c : Char} (h : shortEscape? e = some c) (cs : List Char) :
    readUnits ('\\' :: e :: cs) = (readUnits cs).map fun p => (.char c :: p.1, p.2) := by
  have hu : e ≠ 'u' := by
    rintro rfl
    cases h
  rw [readUnits, h]
  · cases readUnits cs <;> rfl
  · intro _ _ _ _ _ heq
    exact absurd heq hu

/-- A character that needs no escape. -/
theorem readUnits_cons {c : Char} (hcontrol : ¬c.toNat < 0x20) (hquote : c ≠ '\x22')
    (hslash : c ≠ '\\') (cs : List Char) :
    readUnits (c :: cs) = (readUnits cs).map fun p => (.char c :: p.1, p.2) := by
  rw [readUnits]
  · simp only [hcontrol, hslash]
    cases readUnits cs <;> rfl
  -- the character is none of those that begin another case
  case x_1 => exact hquote
  case x_2 =>
    intro _ _ _ _ _ hbackslash
    exact absurd hbackslash hslash
  case x_3 =>
    intro _ _ hbackslash
    exact absurd hbackslash hslash

/-- **A character is written as one part of a text**, which stands for it. -/
theorem exists_unit (c : Char) :
    ∃ u, (∀ cs, readUnits (Json.escape c ++ cs) = (readUnits cs).map fun p => (u :: p.1, p.2)) ∧
      ∀ us, characters? (u :: us) = (characters? us).map (c :: ·) := by
  have hchar : ∀ us, characters? (.char c :: us) = (characters? us).map (c :: ·) :=
    fun us => by rw [characters?]
  unfold Json.escape
  split_ifs with h1 h2 h3 h4 h5 h6 h7 h8
  -- the quote, the backslash and five control characters have a short escape
  iterate 7 exact ⟨.char c, readUnits_shortEscape (by subst c; rfl), hchar⟩
  · refine ⟨.code c.toNat, fun cs => ?_, fun us => ?_⟩
    · simp only [List.cons_append, List.nil_append, readUnits, hexValue4?_hexDigit h8]
      cases readUnits cs <;> rfl
    · rw [characters?_code (by omega), Char.ofNat_toNat]
  · exact ⟨.char c, readUnits_cons h8 h1 h2, hchar⟩

/-- **A text is read back**, whatever characters it holds. -/
theorem readText_escape (cs rest : List Char) :
    readText (cs.flatMap Json.escape ++ '\x22' :: rest) = some (some (String.ofList cs), rest) := by
  have hunits : ∃ us, readUnits (cs.flatMap Json.escape ++ '\x22' :: rest) = some (us, rest) ∧
      characters? us = some cs := by
    induction cs with
    | nil => exact ⟨[], rfl, rfl⟩
    | cons c cs ih =>
      obtain ⟨us, hread, hchars⟩ := ih
      obtain ⟨u, hunit, hchar⟩ := exists_unit c
      refine ⟨u :: us, ?_, ?_⟩
      · rw [List.flatMap_cons, List.append_assoc, hunit, hread]
        rfl
      · rw [hchar, hchars]
        rfl
  obtain ⟨us, hread, hchars⟩ := hunits
  rw [readText, hread, Option.map_some]
  exact congrArg (fun t => some (t.map String.ofList, rest)) hchars

end Document

/-! ### Numbers -/

namespace Json.Numeral

/-- What follows does not go on with a numeral. -/
def Ends (rest : List Char) : Prop :=
  ∀ c, rest.head? = some c → c.isDigit = false ∧ c ≠ '.' ∧ c ≠ 'e' ∧ c ≠ 'E'

/-- Only zero begins with a zero. -/
theorem head?_toDigits {n : Nat} (h : 0 < n) : (Nat.toDigits 10 n).head? ≠ some '0' := by
  induction n using Nat.strongRecOn with
  | ind n ih =>
    rw [Nat.toDigits_eq_if (by decide)]
    split
    · rename_i hn
      have hdigits : ∀ k < 10, 0 < k → Nat.digitChar k ≠ '0' := by decide
      simpa using hdigits n hn h
    · rename_i hn
      have hfront := ih (n / 10) (by omega) (by omega)
      obtain ⟨d, ds, hds⟩ :=
        List.exists_cons_of_ne_nil (Nat.toDigits_ne_nil (n := n / 10) (b := 10))
      rw [hds] at hfront ⊢
      exact hfront

theorem readDigits_toDigits (n : Nat) {rest : List Char} (h : Ends rest) :
    readDigits (Nat.toDigits 10 n ++ rest) = (Nat.toDigits 10 n, rest) := by
  have hdigits : ∀ c ∈ Nat.toDigits 10 n, c.isDigit = true :=
    fun c => Nat.isDigit_of_mem_toDigits (by decide) (by decide)
  have hrest : rest.takeWhile Char.isDigit = [] ∧ rest.dropWhile Char.isDigit = rest := by
    cases rest with
    | nil => exact ⟨rfl, rfl⟩
    | cons c rest =>
      have hc : ¬c.isDigit = true := by simp [(h c rfl).1]
      exact ⟨List.takeWhile_cons_of_neg hc, List.dropWhile_cons_of_neg hc⟩
  rw [readDigits, List.takeWhile_append_of_pos hdigits, List.dropWhile_append_of_pos hdigits,
    hrest.1, hrest.2, List.append_nil]

theorem readFraction_of_ends {rest : List Char} (h : Ends rest) :
    readFraction rest = some ([], rest) := by
  cases rest with
  | nil => rfl
  | cons c rest =>
    rw [readFraction]
    intro cs hcons
    exact absurd (List.cons.inj hcons).1 (h c rfl).2.1

theorem readExponent_of_ends {rest : List Char} (h : Ends rest) :
    readExponent rest = some (none, rest) := by
  cases rest with
  | nil => rfl
  | cons c rest =>
    obtain ⟨-, -, hlower, hupper⟩ := h c rfl
    simp [readExponent, hlower, hupper]

/-- **The digits of a number are read back.** -/
theorem read_toDigits (n : Nat) {rest : List Char} (h : Ends rest) :
    read (Nat.toDigits 10 n ++ rest) = some (⟨false, Nat.toDigits 10 n, [], none⟩, rest) := by
  obtain ⟨d, ds, hds⟩ := List.exists_cons_of_ne_nil (Nat.toDigits_ne_nil (n := n) (b := 10))
  have hsign : d ≠ '-' := by
    rintro rfl
    have hminus : '-' ∈ Nat.toDigits 10 n := by simp [hds]
    exact absurd (Nat.isDigit_of_mem_toDigits (by decide) (by decide) hminus) (by decide)
  have hzero : d = '0' → ds = [] := by
    rcases Nat.eq_zero_or_pos n with rfl | hn
    · cases hds
      exact fun _ => rfl
    · have hhead := head?_toDigits hn
      rw [hds] at hhead
      exact fun hd => absurd (congrArg some hd) hhead
  have hread := readDigits_toDigits n h
  rw [hds, List.cons_append] at hread
  rw [hds, List.cons_append]
  simpa [read, hsign, hread, readFraction_of_ends h, readExponent_of_ends h] using hzero

/-- A number that fits 64 bits is the value of its digits. -/
theorem value?_toDigits {n : Nat} (h : n < UInt64.size) :
    value? ⟨false, Nat.toDigits 10 n, [], none⟩ = some (.integer n) := by
  have hdigits : digitsValue (Nat.toDigits 10 n) = n :=
    Nat.ofDigitChars_toDigits (by decide) (by decide)
  simp [value?, integer?, hdigits, h]

end Json.Numeral

/-! ### Documents -/

namespace Document

open Json (writeText writeObject)
open Json.Numeral (Ends)

/-- The text is read as the document wherever it stands, unless a numeral goes on behind it. -/
def ReadsAs (text : String) (d : Document) : Prop :=
  ∀ steps rest, Ends rest → readValue (steps + 1) (text.toList ++ rest) = some (d, rest)

theorem readsAs_null : ReadsAs "null" .null := fun _ _ _ => rfl

/-- **A text between quotes is read as that text.** -/
theorem readsAs_writeText (s : String) : ReadsAs (writeText s) (.text (some s)) := by
  intro steps rest _
  have htext : (writeText s).toList ++ rest =
      '\x22' :: (s.toList.flatMap Json.escape ++ '\x22' :: rest) := by
    simp [writeText]
  rw [htext]
  have hread := readText_escape s.toList rest
  simp [readValue, skipGaps, isGap, hread]

/-- What begins with a digit is read as a number. -/
theorem readValue_of_isDigit {c : Char} (hc : c.isDigit = true) (steps : Nat) (cs : List Char) :
    readValue (steps + 1) (c :: cs) =
      (Json.Numeral.read (c :: cs)).map fun p => (.number p.1.value?, p.2) := by
  have hne : ∀ d : Char, d.isDigit = false → c ≠ d := by
    rintro d hd rfl
    rw [hc] at hd
    cases hd
  have hgap : skipGaps (c :: cs) = c :: cs := by
    have hcs : ¬isGap c = true := by
      simp [isGap, hne ' ' rfl, hne '\t' rfl, hne '\n' rfl, hne '\r' rfl]
    exact List.dropWhile_cons_of_neg hcs
  rw [readValue, hgap]
  -- every other document begins with a character that is no digit
  split
  case h_7 => rfl
  all_goals
    rename_i heq
    exact absurd (List.cons.inj heq).1 (hne _ rfl)

/-- **Digits are read as their number**, if it fits 64 bits. -/
theorem readsAs_naturalText {n : Nat} (h : n < UInt64.size) :
    ReadsAs (naturalText n) (.number (some (.integer n))) := by
  intro steps rest hrest
  have hread := Json.Numeral.read_toDigits n hrest
  obtain ⟨d, ds, hds⟩ := List.exists_cons_of_ne_nil (Nat.toDigits_ne_nil (n := n) (b := 10))
  have hd : d.isDigit = true := by
    refine Nat.isDigit_of_mem_toDigits (b := 10) (n := n) (by decide) (by decide) ?_
    rw [hds]
    exact List.mem_cons_self
  rw [naturalText, String.toList_ofList, hds, List.cons_append, readValue_of_isDigit hd,
    ← List.cons_append, ← hds, hread, Option.map_some, Json.Numeral.value?_toDigits h]

/-! ### Objects -/

/-- A member of an object as it is written. -/
def memberChars (key text : String) : List Char :=
  '\x22' :: (key.toList.flatMap Json.escape ++ '\x22' :: ':' :: text.toList)

theorem ends_comma (rest : List Char) : Ends (',' :: rest) := by
  rintro _ ⟨⟩
  decide

theorem ends_brace (rest : List Char) : Ends ('\x7d' :: rest) := by
  rintro _ ⟨⟩
  decide

section Members

variable {key text : String} {d : Document}

/-- The last member is read up to the closing brace. -/
theorem readMembers_last (hd : ReadsAs text d) (steps : Nat) (rest : List Char) :
    readMembers (steps + 2) (memberChars key text ++ '\x7d' :: rest) =
      some ([(some key, d)], rest) := by
  have hkey := readText_escape key.toList (':' :: (text.toList ++ '\x7d' :: rest))
  have hvalue := hd steps _ (ends_brace rest)
  simp [memberChars, readMembers, skipGaps, isGap, hkey, hvalue]

/-- Another member is read up to the comma, and then those that follow. -/
theorem readMembers_next (hd : ReadsAs text d) (steps : Nat) (rest : List Char) :
    readMembers (steps + 2) (memberChars key text ++ ',' :: rest) =
      (readMembers (steps + 1) rest).map fun p => ((some key, d) :: p.1, p.2) := by
  have hkey := readText_escape key.toList (':' :: (text.toList ++ ',' :: rest))
  have hvalue := hd steps _ (ends_comma rest)
  rw [memberChars, List.cons_append, readMembers]
  cases hrest : readMembers (steps + 1) rest with
  | none => simp [skipGaps, isGap, hkey, hvalue, hrest]
  | some p => simp [skipGaps, isGap, hkey, hvalue, hrest]

end Members

/-- The members that are read back: the same keys, and values that are read as the documents. -/
def MembersReadAs (written : List (String × String)) (read : List (String × Document)) : Prop :=
  List.Forall₂ (fun w r => w.1 = r.1 ∧ ReadsAs w.2 r.2) written read

theorem toList_writeObject (members : List (String × String)) :
    (writeObject members).toList =
      '\x7b' :: ([','].intercalate (members.map fun m => memberChars m.1 m.2) ++ ['\x7d']) := by
  have hmembers : (members.map fun m => writeText m.1 ++ ":" ++ m.2).map String.toList =
      members.map fun m => memberChars m.1 m.2 := by
    simp [memberChars, writeText]
  rw [writeObject, String.toList_append, String.toList_append, String.toList_intercalate, hmembers]
  rfl

/-- There are not more parts than characters and one, if something stands between them. -/
theorem length_le_length_intercalate (parts : List (List Char)) :
    parts.length ≤ ([','].intercalate parts).length + 1 := by
  induction parts with
  | nil => exact Nat.zero_le _
  | cons part parts ih =>
    cases parts with
    | nil => exact Nat.le_add_left 1 _
    | cons next rest =>
      rw [List.intercalate_cons_cons, List.length_append, List.length_append, List.length_singleton]
      rw [List.length_cons]
      omega

/-- **The members of an object are read back in their order**, with a step for each. -/
theorem readMembers_intercalate {written : List (String × String)} {read : List (String × Document)}
    (h : MembersReadAs written read) (hne : written ≠ []) {steps : Nat}
    (hsteps : written.length < steps) (rest : List Char) :
    readMembers steps
        ([','].intercalate (written.map fun m => memberChars m.1 m.2) ++ '\x7d' :: rest) =
      some (read.map fun m => (some m.1, m.2), rest) := by
  induction h generalizing steps with
  | nil => exact absurd rfl hne
  | @cons w r written read hmember hmembers ih =>
    obtain ⟨hkey, hd⟩ := hmember
    obtain ⟨n, rfl⟩ : ∃ n, steps = n + 2 := ⟨steps - 2, by rw [List.length_cons] at hsteps; omega⟩
    cases hmembers with
    | nil =>
      rw [List.map_singleton, List.intercalate_singleton, readMembers_last hd n rest, hkey]
      rfl
    | @cons w' r' written read hnext hrest =>
      have hfewer : (w' :: written).length < n + 1 := by
        rw [List.length_cons] at hsteps
        omega
      have hlater := ih (List.cons_ne_nil _ _) hfewer
      rw [List.map_cons] at hlater
      rw [List.map_cons, List.map_cons, List.intercalate_cons_cons, List.append_assoc,
        List.append_assoc, List.singleton_append, readMembers_next hd n, hlater, hkey]
      rfl

/-- What is read of an object: a member begins with a quote, so the object is not empty. -/
theorem readValue_writeObject {written : List (String × String)} {read : List (String × Document)}
    (h : MembersReadAs written read) {steps : Nat} (hsteps : written.length < steps)
    (rest : List Char) :
    readValue (steps + 1) ((writeObject written).toList ++ rest) =
      some (.object (read.map fun m => (some m.1, m.2)), rest) := by
  rw [toList_writeObject, List.cons_append, List.append_assoc, List.singleton_append]
  by_cases hne : written = []
  · subst hne
    cases h
    rfl
  · obtain ⟨cs, hcs⟩ : ∃ cs, [','].intercalate (written.map fun m => memberChars m.1 m.2) =
        '\x22' :: cs := by
      obtain ⟨w, ws, rfl⟩ := List.exists_cons_of_ne_nil hne
      cases ws with
      | nil => exact ⟨_, by rw [List.map_singleton, List.intercalate_singleton, memberChars]⟩
      | cons next ws =>
        exact ⟨_, by rw [List.map_cons, List.map_cons, List.intercalate_cons_cons, memberChars,
          List.cons_append, List.cons_append]⟩
    have hmembers := readMembers_intercalate h hne hsteps rest
    rw [hcs, List.cons_append] at hmembers
    rw [hcs, List.cons_append]
    simp [readValue, skipGaps, isGap, hmembers]

/-- **An object is read back**, member by member. -/
theorem read?_writeObject {written : List (String × String)} {read : List (String × Document)}
    (h : MembersReadAs written read) :
    read? (writeObject written) = some (.object (read.map fun m => (some m.1, m.2))) := by
  -- two steps for each character are more than one for each member
  have hsteps : written.length < 2 * (writeObject written).toList.length + 1 := by
    have hparts := length_le_length_intercalate (written.map fun m => memberChars m.1 m.2)
    rw [List.length_map] at hparts
    rw [toList_writeObject, List.length_cons, List.length_append]
    omega
  have hvalue := readValue_writeObject h hsteps []
  rw [List.append_nil] at hvalue
  rw [read?, hvalue]
  rfl

end Document

end FluentSql
