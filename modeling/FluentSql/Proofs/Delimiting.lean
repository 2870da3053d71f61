import FluentSql.Json.Reader
import FluentSql.Proofs.Literals

/-!
# Where a literal ends

In front of any text a literal is read as the value it was made of, and the text behind it is left
as it is.  The scan for placeholders is where it was before the literal.  A text between quotes is
over at the first quote that is not doubled, so a quote must not follow it; the hexadecimal digits
of bytes are over at the first quote, whatever follows.

## Main definitions

* `Value.readText` — read a text between single quotes.
* `Value.readBytes` — read bytes written with hexadecimal digits, in either case of letters.

## Main results

* `Value.count_literal_append`, `Value.scan_literal_append` — a literal leaves the scan alone.
* `Value.readText_eq_some_iff` — what is read is the literal of a text and nothing else.
* `Value.readBytes_append` — bytes are read back.
* `Value.literals_delimit_themselves` — **every literal shows where it ends.**
-/

namespace FluentSql.Value

open Placeholder

/-! ### Scanning behind a literal -/

/-- A literal leaves no quote open in front of what follows. -/
theorem scan_literal_append (v : Value) (cs : List Char) :
    scan none (v.literal.toList ++ cs) = scan none cs := by
  rw [scan_append, v.clean_literal.1]

/-- A literal neither has placeholders nor hides those that follow. -/
theorem count_literal_append (v : Value) (t : String) : count (v.literal ++ t) = count t := by
  rw [count, String.toList_append, countFrom_append, v.clean_literal.1, v.clean_literal.2,
    Nat.zero_add]
  rfl

/-! ### Reading texts -/

/-- Read a text between single quotes; what comes after it is left. -/
def readText (cs : List Char) : Option (String × List Char) :=
  (Text.readQuoted singleQuote cs).map fun (body, rest) => (String.ofList body, rest)

/-- **What is read is the literal of a text and nothing else**: a text can be read exactly in front
of what does not double the last quote. -/
theorem readText_eq_some_iff {cs rest : List Char} {s : String} :
    readText cs = some (s, rest) ↔
      cs = (quoteLiteral s).toList ++ rest ∧ rest.head? ≠ some singleQuote := by
  rw [readText, Option.map_eq_some_iff, quoteLiteral, String.toList_ofList,
    ← Text.readQuoted_eq_some_iff]
  constructor
  · rintro ⟨⟨body, after⟩, hread, heq⟩
    cases heq
    rwa [String.toList_ofList]
  · intro hread
    exact ⟨_, hread, congrArg (·, rest) String.ofList_toList⟩

theorem readText_append_iff {s : String} {rest : List Char} :
    readText ((quoteLiteral s).toList ++ rest) = some (s, rest) ↔
      rest.head? ≠ some singleQuote := by
  rw [readText_eq_some_iff, eq_self, true_and]

/-! ### Reading bytes -/

/-- The byte of two hexadecimal digits. -/
def readByte? (high low : Char) : Option UInt8 := do
  return UInt8.ofNat ((← Document.hexValue? high) * 16 + (← Document.hexValue? low))

/-- Read pairs of hexadecimal digits up to a single quote. -/
def readPairs : List Char → Option (List UInt8 × List Char)
  | [] => none
  | [c] => if c = singleQuote then some ([], []) else none
  | high :: low :: cs =>
    if high = singleQuote then some ([], low :: cs)
    else do
      let b ← readByte? high low
      let (bs, rest) ← readPairs cs
      return (b :: bs, rest)

/-- Read bytes written with hexadecimal digits; what comes after them is left. -/
def readBytes : List Char → Option (List UInt8 × List Char)
  | 'X' :: '\'' :: cs => readPairs cs
  | _ => none

/-- The digits of a byte are read as that byte. -/
theorem readByte?_hexByte (b : UInt8) :
    ∃ high low, hexByte b = [high, low] ∧ high ≠ singleQuote ∧ readByte? high low = some b := by
  have hvalue : ∀ n < 16, Document.hexValue? (Nat.digitChar n).toUpper = some n := by decide
  have hb := b.toNat_lt
  have hhigh := hvalue (b.toNat / 16) (by omega)
  have hlow := hvalue (b.toNat % 16) (Nat.mod_lt _ (by decide))
  have hquote := singleQuote_notMem_hexByte b
  rw [hexByte, List.mem_cons, not_or] at hquote
  have hbyte : UInt8.ofNat (b.toNat / 16 * 16 + b.toNat % 16) = b := by
    rw [Nat.div_add_mod', UInt8.ofNat_toNat]
  refine ⟨_, _, rfl, Ne.symm hquote.1, ?_⟩
  rw [readByte?, hhigh, hlow]
  exact congrArg some hbyte

theorem readPairs_append (bs : List UInt8) (rest : List Char) :
    readPairs (bs.flatMap hexByte ++ singleQuote :: rest) = some (bs, rest) := by
  induction bs with
  | nil => cases rest <;> exact if_pos rfl
  | cons b bs ih =>
    obtain ⟨high, low, hpair, hquote, hread⟩ := readByte?_hexByte b
    have hcons : (b :: bs).flatMap hexByte ++ singleQuote :: rest =
        high :: low :: (bs.flatMap hexByte ++ singleQuote :: rest) := by
      rw [List.flatMap_cons, hpair]
      rfl
    rw [hcons, readPairs, if_neg hquote, hread, ih]
    rfl

/-- Bytes are read back from their literal, and what follows is left, a quote included. -/
theorem readBytes_append (bs : List UInt8) (rest : List Char) :
    readBytes ((bytes bs).literal.toList ++ rest) = some (bs, rest) := by
  have hliteral : (bytes bs).literal.toList ++ rest =
      'X' :: '\'' :: (bs.flatMap hexByte ++ singleQuote :: rest) := by
    simp [literal, singleQuote]
  rw [hliteral]
  exact readPairs_append bs rest

/-! ### Literals -/

/-- **Every literal shows where it ends.**  In front of any text a literal leaves the scan for
placeholders where it was, so that none is added or hidden and no quote is left open; and the
literals of texts, of JSON documents and of bytes are read back, with the text behind them left,
where a quoted text needs that no quote follows it. -/
theorem literals_delimit_themselves :
    (∀ (v : Value) (t : String),
      count (v.literal ++ t) = count t ∧
      scan none (v.literal ++ t).toList = scan none t.toList) ∧
    (∀ (s : String) (rest : List Char),
      readText ((text s).literal.toList ++ rest) = some (s, rest) ↔
        rest.head? ≠ some singleQuote) ∧
    (∀ (document : Json) (rest : List Char),
      readText ((json document).literal.toList ++ rest) = some (document.write, rest) ↔
        rest.head? ≠ some singleQuote) ∧
    (∀ (bs : List UInt8) (rest : List Char),
      readBytes ((bytes bs).literal.toList ++ rest) = some (bs, rest)) := by
  refine ⟨fun v t => ⟨count_literal_append v t, ?_⟩, fun s rest => readText_append_iff,
    fun document rest => readText_append_iff, readBytes_append⟩
  rw [String.toList_append, scan_literal_append]

end FluentSql.Value
