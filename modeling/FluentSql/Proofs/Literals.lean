import FluentSql.Proofs.Placeholders
import FluentSql.Value

/-!
# Literals of bound values

In the debug view of a statement the literals of the bound values stand where the placeholders
stood.  A literal leaves no quote open and has no question mark outside its quotes, so the text
around it is read as before.

## Main definitions

* `Placeholder.IsWord` — characters, at least one, of which none opens a quote or is a placeholder.

## Main results

* `Layout.isWord_write` — the text of a floating point number is a word.
* `Value.clean_literal` — **a literal holds no placeholder and leaves no quote open.**
* `Value.toList_literal_eq_cons` — a literal begins with a character that is no question mark.
-/

namespace FluentSql

open Placeholder

/-- There is a character, and all characters are plain. -/
structure Placeholder.IsWord (cs : List Char) : Prop where
  ne_nil : cs ≠ []
  plain : cs.all isPlain = true

namespace Placeholder

variable {c : Char} {cs ds : List Char}

theorem isWord_cons (hc : isPlain c = true) (h : cs.all isPlain = true) : IsWord (c :: cs) where
  ne_nil := List.cons_ne_nil c cs
  plain := by rw [List.all_cons, hc, h]; rfl

theorem isWord_append (hcs : IsWord cs) (hds : ds.all isPlain = true) : IsWord (cs ++ ds) where
  ne_nil := List.append_ne_nil_of_left_ne_nil hcs.ne_nil ds
  plain := by rw [List.all_append, hcs.plain, hds]; rfl

theorem clean_of_isWord {s : String} (h : IsWord s.toList) : IsClean s :=
  clean_of_isPlain (List.all_eq_true.mp h.plain)

end Placeholder

/-! ### Numbers -/

theorem isWord_toDigits (n : Nat) : IsWord (Nat.toDigits 10 n) where
  ne_nil := Nat.toDigits_ne_nil
  plain := List.all_eq_true.mpr fun _ hc =>
    isPlain_of_isDigit (Nat.isDigit_of_mem_toDigits (by decide) (by decide) hc)

theorem isWord_integerText (n : Int) : IsWord (integerText n).toList := by
  have hnatural : IsWord (naturalText n.natAbs).toList := by
    rw [naturalText, String.toList_ofList]
    exact isWord_toDigits _
  rw [integerText]
  split
  · rw [String.toList_append]
    exact isWord_append ⟨by decide, by decide⟩ hnatural.plain
  · exact hnatural

namespace Layout

variable {L : Layout} {digits : List Char}

theorem all_isPlain_zeros (n : Nat) : (List.replicate n '0').all isPlain = true := by
  rw [List.all_replicate]
  split
  · rfl
  · decide

theorem isWord_writePlaces (h : IsWord digits) (exponent : Int) :
    IsWord (L.writePlaces digits exponent) := by
  simp only [writePlaces]
  split
  · refine isWord_append (isWord_append h (all_isPlain_zeros _)) ?_
    split <;> decide
  · have hall := List.all_eq_true.mp h.plain
    split
    · -- the point stands among the digits
      refine ⟨List.append_ne_nil_of_right_ne_nil _ (List.cons_ne_nil _ _), ?_⟩
      rw [List.all_append, List.all_cons, Bool.and_eq_true, Bool.and_eq_true]
      exact ⟨List.all_eq_true.mpr fun c hc => hall c (List.mem_of_mem_take hc), by decide,
        List.all_eq_true.mpr fun c hc => hall c (List.mem_of_mem_drop hc)⟩
    · -- the point stands before all digits
      refine isWord_cons (by decide) (isWord_cons (by decide) ?_).plain
      rw [List.all_append, all_isPlain_zeros, h.plain]
      rfl

theorem isWord_writeExponent (h : IsWord digits) (lead : Int) :
    IsWord (L.writeExponent digits lead) := by
  have hsign : (if L.exponentPlus && 0 ≤ lead then ['+'] else []).all isPlain = true := by
    split <;> decide
  simp only [writeExponent]
  refine isWord_append ?_ (isWord_cons (by decide) ?_).plain
  · -- the point stands after the first digit if there are others
    split
    · have hdigits := h.plain
      rw [List.all_cons, Bool.and_eq_true] at hdigits
      exact isWord_cons hdigits.1 (isWord_cons (by decide) hdigits.2).plain
    · exact h
  · rw [List.all_append, hsign, (isWord_integerText lead).plain]
    rfl

theorem isWord_writeDecimal (d : Decimal) : IsWord (L.writeDecimal d) := by
  simp only [writeDecimal]
  split
  · exact isWord_writePlaces (isWord_toDigits _) _
  · exact isWord_writeExponent (isWord_toDigits _) _

/-- The text of a floating point number is a word, be it a number or not. -/
theorem isWord_write {F : Format} (x : Binary F) : IsWord (L.write x).toList := by
  have hsigned : ∀ {cs : List Char} (negative : Bool), IsWord cs →
      IsWord (String.ofList (if negative then '-' :: cs else cs)).toList := by
    intro cs negative h
    rw [String.toList_ofList]
    split
    · exact isWord_cons (by decide) h.plain
    · exact h
  simp only [write]
  split
  · exact ⟨by decide, by decide⟩
  · exact hsigned _ ⟨by decide, by decide⟩
  · exact hsigned _ (isWord_writePlaces ⟨by decide, by decide⟩ _)
  · exact hsigned _ (isWord_writeDecimal _)

end Layout

/-! ### Literals -/

namespace Value

/-- No hexadecimal digit is a single quote. -/
theorem singleQuote_notMem_hexByte (b : UInt8) : singleQuote ∉ hexByte b := by
  have hdigit : ∀ n < 16, singleQuote ≠ (Nat.digitChar n).toUpper := by decide
  have hb := b.toNat_lt
  simp only [hexByte, List.mem_cons, List.not_mem_nil, or_false, not_or]
  exact ⟨hdigit _ (by omega), hdigit _ (Nat.mod_lt _ (by decide))⟩

/-- The literal of bytes is a letter and a quoted text. -/
theorem literal_bytes (bs : List UInt8) :
    (bytes bs).literal = "X" ++ String.ofList (Text.quoted singleQuote (bs.flatMap hexByte)) := by
  have hquote : singleQuote ∉ bs.flatMap hexByte := by
    rw [List.mem_flatMap]
    rintro ⟨b, -, hb⟩
    exact singleQuote_notMem_hexByte b hb
  rw [literal, Text.quoted, Text.doubled_eq_self hquote, ← String.toList_inj]
  simp [singleQuote]

/-- **A literal holds no placeholder and leaves no quote open**, whatever the value is. -/
theorem clean_literal (v : Value) : IsClean v.literal := by
  cases v with
  | null => decide
  | bool b => cases b <;> decide
  | int32 n => exact clean_of_isWord (isWord_integerText _)
  | int64 n => exact clean_of_isWord (isWord_integerText _)
  | single x => exact clean_of_isWord (Layout.isWord_write x)
  | double x => exact clean_of_isWord (Layout.isWord_write x)
  | text s => exact clean_quoted (by decide) _
  | bytes bs =>
    rw [literal_bytes]
    exact holds_append (by decide : IsClean "X") (clean_quoted (by decide) _)
  | json document => exact clean_quoted (by decide) _

theorem toList_literal_ne_nil (v : Value) : v.literal.toList ≠ [] := by
  cases v with
  | null => decide
  | bool b => cases b <;> decide
  | int32 n => exact (isWord_integerText _).ne_nil
  | int64 n => exact (isWord_integerText _).ne_nil
  | single x => exact (Layout.isWord_write x).ne_nil
  | double x => exact (Layout.isWord_write x).ne_nil
  | text s => simp [literal, quoteLiteral, Text.quoted]
  | bytes bs => simp [literal_bytes]
  | json document => simp [literal, quoteLiteral, Text.quoted]

/-- A literal begins with a character, and one that is no question mark. -/
theorem toList_literal_eq_cons (v : Value) : ∃ c cs, v.literal.toList = c :: cs ∧ c ≠ '?' := by
  obtain ⟨c, cs, h⟩ := List.exists_cons_of_ne_nil v.toList_literal_ne_nil
  refine ⟨c, cs, h, ?_⟩
  rintro rfl
  -- a question mark in front would be a placeholder
  have hcount := v.clean_literal.2
  rw [h, countFrom] at hcount
  simp at hcount

end Value

end FluentSql
