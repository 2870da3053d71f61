import FluentSql.Text.Cut

/-!
# Cutting text at byte offsets

A text may be stored as bytes, and searched as bytes for a word whose characters are ASCII: its
letters are brought to lower case byte by byte, and the offset of the last occurrence says where to
cut.  No byte of a character outside ASCII is ASCII, so such a word is found where a character
begins and nowhere else; and the cut there is the one that characters give.

## Main definitions

* `Text.bytes`, `Text.loweredBytes` — the bytes of a text, and those of its lower-case form.
* `Text.StandsAt` — a word is found at an offset.
* `Text.CutsAt` — the two parts of a text around the last place where a word is found.

## Main results

* `Text.loweredBytes_eq` — lowering bytes is lowering characters.
* `Text.standsAt_iff` — **a word is found only where a character begins.**
* `Text.isValid_of_standsAt` — both ends of what is found are between two characters.
* `Text.cutLast_iff_cutsAt` — **cutting bytes is cutting characters.**
-/

namespace FluentSql.Text

/-! ### Bytes -/

/-- The bytes of a text. -/
def bytes (cs : List Char) : List UInt8 := cs.flatMap String.utf8EncodeChar

/-- The letters of ASCII in lower case, byte by byte. -/
def lowerByte (b : UInt8) : UInt8 := if 65 ≤ b.toNat ∧ b.toNat ≤ 90 then b + 32 else b

/-- The bytes of a text with the letters of ASCII in lower case. -/
def loweredBytes (cs : List Char) : List UInt8 := (bytes cs).map lowerByte

@[simp] theorem bytes_nil : bytes [] = [] := rfl

@[simp] theorem bytes_cons (c : Char) (cs : List Char) :
    bytes (c :: cs) = String.utf8EncodeChar c ++ bytes cs := rfl

@[simp] theorem bytes_append (cs ds : List Char) : bytes (cs ++ ds) = bytes cs ++ bytes ds :=
  List.flatMap_append ..

/-- These are the bytes that a string is stored as. -/
theorem toByteArray_bytes (s : String) : (bytes s.toList).toByteArray = s.toByteArray :=
  String.utf8Encode_toList

theorem toByteArray_ofList (cs : List Char) :
    (String.ofList cs).toByteArray = (bytes cs).toByteArray := by
  rw [← toByteArray_bytes, String.toList_ofList]

theorem utf8ByteSize_ofList (cs : List Char) :
    (String.ofList cs).utf8ByteSize = (bytes cs).length := by
  rw [String.utf8ByteSize, toByteArray_ofList, List.size_toByteArray]

/-- Texts with the same bytes are the same. -/
theorem bytes_inj {cs ds : List Char} : bytes cs = bytes ds ↔ cs = ds := by
  refine ⟨fun h => ?_, fun h => by rw [h]⟩
  rw [← String.ofList_inj, ← String.toByteArray_inj, toByteArray_ofList, toByteArray_ofList, h]

/-! ### Bytes of ASCII -/

/-- A character of ASCII is one byte. -/
theorem utf8EncodeChar_of_lt {c : Char} (h : c.toNat < 128) :
    String.utf8EncodeChar c = [UInt8.ofNat c.toNat] := by
  have hle : c.val.toNat ≤ 127 := Nat.le_of_lt_succ h
  rw [String.utf8EncodeChar, if_pos hle]
  rfl

/-- No byte of another character is one of ASCII. -/
theorem le_of_mem_utf8EncodeChar {c : Char} (h : 128 ≤ c.toNat) {b : UInt8}
    (hb : b ∈ String.utf8EncodeChar c) : 128 ≤ b.toNat := by
  have hgt : ¬c.val.toNat ≤ 127 := Nat.not_le.mpr h
  have hbyte : ∀ n, 128 ≤ n → n < 256 → 128 ≤ (UInt8.ofNat n).toNat := by
    intro n hlow hhigh
    rw [UInt8.toNat_ofNat', Nat.mod_eq_of_lt hhigh]
    exact hlow
  rw [String.utf8EncodeChar, if_neg hgt] at hb
  -- the first byte of such a character and those behind it have marks of their own
  split at hb
  · simp only [List.mem_cons, List.not_mem_nil, or_false] at hb
    rcases hb with rfl | rfl <;> exact hbyte _ (by omega) (by omega)
  · split at hb
    · simp only [List.mem_cons, List.not_mem_nil, or_false] at hb
      rcases hb with rfl | rfl | rfl <;> exact hbyte _ (by omega) (by omega)
    · simp only [List.mem_cons, List.not_mem_nil, or_false] at hb
      rcases hb with rfl | rfl | rfl | rfl <;> exact hbyte _ (by omega) (by omega)

/-- Lowering the bytes of a character is lowering the character. -/
theorem map_lowerByte_utf8EncodeChar (c : Char) :
    (String.utf8EncodeChar c).map lowerByte = String.utf8EncodeChar c.toLower := by
  by_cases hascii : c.toNat < 128
  · have hcodes : ∀ n < 128, (String.utf8EncodeChar (Char.ofNat n)).map lowerByte =
        String.utf8EncodeChar (Char.ofNat n).toLower := by decide +kernel
    rw [← Char.ofNat_toNat c]
    exact hcodes _ hascii
  · have hlower : c.toLower = c := by
      refine dif_neg fun hupper => hascii ?_
      have hhigh : c.val.toNat ≤ 90 := UInt32.le_iff_toNat_le.mp hupper.2
      exact Nat.lt_of_le_of_lt hhigh (by decide)
    have hkeep : ∀ b ∈ String.utf8EncodeChar c, lowerByte b = b := by
      intro b hb
      have hb := le_of_mem_utf8EncodeChar (Nat.not_lt.mp hascii) hb
      exact if_neg (by omega)
    rw [hlower, List.map_congr_left hkeep, List.map_id']

/-- **Lowering the bytes of a text is lowering its characters.** -/
theorem loweredBytes_eq (cs : List Char) : loweredBytes cs = bytes (fold cs) := by
  induction cs with
  | nil => rfl
  | cons c cs ih =>
    rw [loweredBytes, bytes_cons, List.map_append, map_lowerByte_utf8EncodeChar]
    exact congrArg _ ih

/-! ### Where a word is found -/

/-- The word is found at an offset, in any case of its letters. -/
def StandsAt (word cs : List Char) (p : Nat) : Prop := bytes word <+: (loweredBytes cs).drop p

/-- A byte of ASCII stands where a character begins. -/
theorem exists_of_drop_bytes {b : UInt8} (hb : b.toNat < 128) {cs : List Char} {p : Nat}
    {rest : List UInt8} (h : (bytes cs).drop p = b :: rest) :
    ∃ front back, cs = front ++ back ∧ (bytes front).length = p := by
  induction cs generalizing p with
  | nil =>
    rw [bytes_nil, List.drop_nil] at h
    cases h
  | cons c cs ih =>
    rw [bytes_cons] at h
    rcases Nat.lt_or_ge p (String.utf8EncodeChar c).length with hp | hp
    · -- the byte is one of the first character, which is therefore ASCII
      have hmem : b ∈ String.utf8EncodeChar c := by
        rw [List.drop_append_of_le_length (Nat.le_of_lt hp), List.drop_eq_getElem_cons hp] at h
        rw [← (List.cons.inj h).1]
        exact List.getElem_mem hp
      have hascii : c.toNat < 128 :=
        Nat.lt_of_not_le fun hc => absurd (le_of_mem_utf8EncodeChar hc hmem) (Nat.not_le.mpr hb)
      rw [utf8EncodeChar_of_lt hascii, List.length_singleton] at hp
      exact ⟨[], c :: cs, rfl, by rw [bytes_nil, List.length_nil]; omega⟩
    · rw [List.drop_append, List.drop_eq_nil_of_le hp, List.nil_append] at h
      obtain ⟨front, back, rfl, hfront⟩ := ih h
      exact ⟨c :: front, back, rfl, by rw [bytes_cons, List.length_append, hfront]; omega⟩

/-- Texts begin with the bytes of a word exactly if they begin with the word. -/
theorem bytes_isPrefix_iff {word cs : List Char} : bytes word <+: bytes cs ↔ word <+: cs := by
  constructor
  · rintro ⟨rest, hrest⟩
    refine List.isPrefix_of_utf8Encode_append_eq_utf8Encode rest.toByteArray ?_
    rw [List.utf8Encode, List.utf8Encode, ← List.toByteArray_append]
    exact congrArg List.toByteArray hrest
  · rintro ⟨rest, rfl⟩
    exact ⟨bytes rest, (bytes_append word rest).symm⟩

theorem length_bytes_fold (cs : List Char) : (bytes (fold cs)).length = (bytes cs).length := by
  rw [← loweredBytes_eq, loweredBytes, List.length_map]

/-- The lower-case form of what stands behind a text. -/
theorem drop_loweredBytes_append (front back : List Char) :
    (loweredBytes (front ++ back)).drop (bytes front).length = bytes (fold back) := by
  rw [loweredBytes_eq, fold, List.map_append, bytes_append, ← length_bytes_fold front]
  exact List.drop_left

section Standing

variable {word cs : List Char} {p : Nat}

/-- **A word of ASCII is found only where a character begins**, and there exactly if the text goes
on with it. -/
theorem standsAt_iff (hword : ∀ c ∈ word, c.toNat < 128) (hne : word ≠ []) :
    StandsAt word cs p ↔
      ∃ front back, cs = front ++ back ∧ (bytes front).length = p ∧
        startsWithWord word back = true := by
  constructor
  · intro h
    obtain ⟨w, ws, rfl⟩ := List.exists_cons_of_ne_nil hne
    have hw : w.toNat < 128 := hword w List.mem_cons_self
    have hbyte : (UInt8.ofNat w.toNat).toNat < 128 := by
      rw [UInt8.toNat_ofNat', Nat.mod_eq_of_lt (by omega)]
      exact hw
    obtain ⟨rest, hrest⟩ := h
    rw [bytes_cons, utf8EncodeChar_of_lt hw, loweredBytes_eq, List.append_assoc,
      List.singleton_append] at hrest
    obtain ⟨front', back', hsplit, hfront⟩ := exists_of_drop_bytes hbyte hrest.symm
    obtain ⟨front, back, rfl, rfl, rfl⟩ := List.map_eq_append_iff.mp hsplit
    have hp : (bytes front).length = p := (length_bytes_fold front).symm.trans hfront
    refine ⟨front, back, rfl, hp, startsWithWord_iff.mpr (bytes_isPrefix_iff.mp ⟨rest, ?_⟩)⟩
    rw [← drop_loweredBytes_append front back, hp, loweredBytes_eq, ← hrest, bytes_cons,
      utf8EncodeChar_of_lt hw, List.append_assoc, List.singleton_append]
  · rintro ⟨front, back, rfl, rfl, hback⟩
    rw [StandsAt, drop_loweredBytes_append, bytes_isPrefix_iff]
    exact startsWithWord_iff.mp hback

/-- What is found at an offset, and what stands around it. -/
theorem exists_of_standsAt (hword : ∀ c ∈ word, c.toNat < 128) (hne : word ≠ [])
    (h : StandsAt word cs p) :
    ∃ before found after, cs = before ++ (found ++ after) ∧ fold found = word ∧
      (bytes before).length = p ∧ (bytes found).length = (bytes word).length := by
  obtain ⟨before, back, rfl, hp, hback⟩ := (standsAt_iff hword hne).mp h
  obtain ⟨rest, hrest⟩ := startsWithWord_iff.mp hback
  obtain ⟨found, after, rfl, hfound, -⟩ := List.map_eq_append_iff.mp hrest.symm
  refine ⟨before, found, after, rfl, hfound, hp, ?_⟩
  rw [← length_bytes_fold found, fold, hfound]

/-- The bytes of what stands in front of a place end between two characters. -/
theorem isValid_length_bytes {s : String} {front back : List Char} (h : s.toList = front ++ back) :
    (⟨(bytes front).length⟩ : String.Pos.Raw).IsValid s := by
  rw [String.Pos.Raw.isValid_iff_exists_append]
  refine ⟨String.ofList front, String.ofList back, ?_, ?_⟩
  · rw [← String.ofList_append, ← h, String.ofList_toList]
  · rw [String.rawEndPos, utf8ByteSize_ofList]

/-- **What is found begins and ends between two characters.** -/
theorem isValid_of_standsAt (hword : ∀ c ∈ word, c.toNat < 128) (hne : word ≠ []) {s : String}
    (h : StandsAt word s.toList p) :
    (⟨p⟩ : String.Pos.Raw).IsValid s ∧
      (⟨p + (bytes word).length⟩ : String.Pos.Raw).IsValid s := by
  obtain ⟨before, found, after, hs, -, rfl, hfound⟩ := exists_of_standsAt hword hne h
  refine ⟨isValid_length_bytes hs, ?_⟩
  rw [← hfound, ← List.length_append, ← bytes_append]
  exact isValid_length_bytes (by rw [hs, List.append_assoc])

/-! ### Cutting at the last place -/

/-- The text is cut at the last offset at which the word is found. -/
structure CutsAt (word cs : List Char) (p : Nat) (before after : List Char) : Prop where
  stands : StandsAt word cs p
  last : ∀ q, StandsAt word cs q → q ≤ p
  /-- The bytes up to the offset. -/
  front : bytes before = (bytes cs).take p
  /-- The bytes behind the word. -/
  back : bytes after = (bytes cs).drop (p + (bytes word).length)

/-- Behind the last place the word is not found again. -/
theorem le_of_standsAt (hword : ∀ c ∈ word, c.toNat < 128) (hne : word ≠ [])
    {before found after : List Char} (hlast : cutLast word (found ++ after).tail = none)
    (h : StandsAt word (before ++ (found ++ after)) p) : p ≤ (bytes before).length := by
  obtain ⟨front, back, hsplit, rfl, hback⟩ := (standsAt_iff hword hne).mp h
  rcases List.append_eq_append_iff.mp hsplit with ⟨mid, rfl, hmid⟩ | ⟨mid, rfl, -⟩
  · cases mid with
    | nil => exact Nat.le_of_eq (by rw [List.append_nil])
    | cons c mid =>
      -- then the word stands in the text behind its last place
      rw [hmid, List.cons_append, List.tail_cons, cutLast_eq_none_iff hne, Bool.eq_false_iff, ne_eq,
        holdsWord_iff] at hlast
      refine absurd ((startsWithWord_iff.mp hback).isInfix.trans ?_) hlast
      exact (List.suffix_append mid back).isInfix.map _
  · rw [bytes_append, List.length_append]
    exact Nat.le_add_right _ _

/-- The last place at which characters are cut is the last offset. -/
theorem cutsAt_of_cutLast (hword : ∀ c ∈ word, c.toNat < 128) (hne : word ≠ [])
    {before after : List Char} (h : cutLast word cs = some (before, after)) :
    CutsAt word cs (bytes before).length before after := by
  obtain ⟨found, rfl, hfound, hlast⟩ := eq_of_cutLast h
  have hlength : (bytes word).length = (bytes found).length := by
    rw [← hfound, length_bytes_fold]
  refine ⟨(standsAt_iff hword hne).mpr ⟨before, found ++ after, rfl, rfl, ?_⟩,
    fun q => le_of_standsAt hword hne hlast, ?_, ?_⟩
  · rw [startsWithWord_iff, ← hfound, fold, fold, List.map_append]
    exact List.prefix_append _ _
  · rw [bytes_append, List.take_left]
  · rw [hlength, bytes_append, bytes_append, ← List.append_assoc, ← List.length_append,
      List.drop_left]

/-- **Cutting the bytes at the last offset is cutting the characters.** -/
theorem cutLast_iff_cutsAt (hword : ∀ c ∈ word, c.toNat < 128) (hne : word ≠ [])
    {before after : List Char} :
    cutLast word cs = some (before, after) ↔ ∃ p, CutsAt word cs p before after := by
  refine ⟨fun h => ⟨_, cutsAt_of_cutLast hword hne h⟩, ?_⟩
  rintro ⟨p, h⟩
  cases hcut : cutLast word cs with
  | none =>
    obtain ⟨front, found, back, rfl, hfound, -, -⟩ := exists_of_standsAt hword hne h.stands
    rw [cutLast_eq_none_iff hne, Bool.eq_false_iff, ne_eq, holdsWord_iff] at hcut
    refine absurd ⟨fold front, fold back, ?_⟩ hcut
    rw [← hfound, fold, fold, fold, fold, List.map_append, List.map_append, List.append_assoc]
  | some cut =>
    obtain ⟨front, back⟩ := cut
    have hcutsAt := cutsAt_of_cutLast hword hne hcut
    -- both offsets are the last one
    have hp : (bytes front).length = p :=
      Nat.le_antisymm (h.last _ hcutsAt.stands) (hcutsAt.last _ h.stands)
    rw [hp] at hcutsAt
    have hfront : front = before := bytes_inj.mp (hcutsAt.front.trans h.front.symm)
    have hback : back = after := bytes_inj.mp (hcutsAt.back.trans h.back.symm)
    rw [hfront, hback]

end Standing

end FluentSql.Text
