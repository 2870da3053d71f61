import FluentSql.Proofs.Session
import Mathlib.Data.List.Induction
import Mathlib.Data.String.Basic

/-!
# Rows as a map

`pluck` fetches rows and maps the text of one column to the value of another.  A row gives an entry
if it has both columns, and of rows with the same text the last one counts.  The key is taken out of
a row before the value is looked up, so a column is never mapped to itself: that map is empty,
whatever the rows are.

## Main definitions

* `Keyed.Ascending` — entries in the order of their keys, each key once.
* `Row.entry?` — the entry that a row gives to a map.
* `MapsRows` — the map of some rows: each text to the value of the last row that has it.
* `Builder.Fetches` — the rows that a statement gives.

## Main results

* `Keyed.ascending_ofList`, `Keyed.eq_of_get?` — a map keeps its entries in the order of their
  keys, and is told apart by its values.
* `get?_ofList_filterMap`, `mapsRows_ofList`, `MapsRows.eq` — what the entries of several rows make
  is their map, and there is no other.
* `Builder.pluck_mapsRows_iff` — **when `pluck` gives the map of the rows.**
* `Builder.column_by_itself_is_lost` — a column that is not mapped to itself.
-/

namespace FluentSql

namespace Keyed

variable {α : Type}

/-- The entries stand in the order of their keys, and each key stands once. -/
def Ascending (entries : Keyed α) : Prop := entries.Pairwise fun e e' => e.1 < e'.1

/-- The keys of a list with one more entry. -/
theorem mem_insert {key : String} {value : α} {entries : Keyed α} {e : String × α}
    (h : e ∈ insert key value entries) : e = (key, value) ∨ e ∈ entries := by
  induction entries with
  | nil => exact Or.inl (List.mem_singleton.mp h)
  | cons entry entries ih =>
    unfold insert at h
    split at h
    · exact List.mem_cons.mp h
    · split at h
      · rcases List.mem_cons.mp h with rfl | h
        · exact Or.inl rfl
        · exact Or.inr (List.mem_cons_of_mem _ h)
      · rcases List.mem_cons.mp h with rfl | h
        · exact Or.inr List.mem_cons_self
        · rcases ih h with rfl | h
          · exact Or.inl rfl
          · exact Or.inr (List.mem_cons_of_mem _ h)

theorem ascending_insert {entries : Keyed α} (h : Ascending entries) (key : String) (value : α) :
    Ascending (insert key value entries) := by
  induction entries with
  | nil => exact List.pairwise_singleton _ _
  | cons entry entries ih =>
    obtain ⟨hentry, hentries⟩ := List.pairwise_cons.mp h
    unfold insert
    split
    · rename_i hlt
      -- the new key stands before the first one, and so before all
      refine List.pairwise_cons.mpr ⟨fun e he => ?_, h⟩
      rcases List.mem_cons.mp he with rfl | he
      · exact hlt
      · exact lt_trans hlt (hentry e he)
    · split
      · rename_i heq
        subst heq
        exact List.pairwise_cons.mpr ⟨hentry, hentries⟩
      · rename_i hlt hne
        refine List.pairwise_cons.mpr ⟨fun e he => ?_, ih hentries⟩
        rcases mem_insert he with rfl | he
        · exact lt_of_le_of_ne (not_lt.mp hlt) (Ne.symm hne)
        · exact hentry e he

/-- A key in front of all others is not among them. -/
theorem get?_eq_none {key : String} {entries : Keyed α} (h : ∀ e ∈ entries, key < e.1) :
    entries.get? key = none := by
  induction entries with
  | nil => rfl
  | cons entry entries ih =>
    obtain ⟨hentry, hentries⟩ := List.forall_mem_cons.mp h
    rw [get?, if_neg (ne_of_gt hentry)]
    exact ih hentries

/-- **Entries in the order of their keys are told apart by their values.** -/
theorem eq_of_get? {entries others : Keyed α} (h : Ascending entries) (h' : Ascending others)
    (hget : ∀ key, entries.get? key = others.get? key) : entries = others := by
  induction entries generalizing others with
  | nil =>
    cases others with
    | nil => rfl
    | cons other others =>
      have hkey := hget other.1
      simp [get?] at hkey
  | cons entry entries ih =>
    cases others with
    | nil =>
      have hkey := hget entry.1
      simp [get?] at hkey
    | cons other others =>
      obtain ⟨hentry, hentries⟩ := List.pairwise_cons.mp h
      obtain ⟨hother, hothers⟩ := List.pairwise_cons.mp h'
      rcases lt_trichotomy entry.1 other.1 with hlt | heq | hgt
      · -- the first key of one list is in front of all keys of the other
        have hkey := hget entry.1
        rw [get?, if_pos rfl, get?_eq_none] at hkey
        · cases hkey
        · intro e he
          rcases List.mem_cons.mp he with rfl | he
          · exact hlt
          · exact lt_trans hlt (hother e he)
      · have hvalue : entry.2 = other.2 := by
          have hkey := hget entry.1
          rw [get?, if_pos rfl, get?, if_pos heq.symm] at hkey
          exact Option.some.inj hkey
        have hrest : entries = others := by
          refine ih hentries hothers fun key => ?_
          by_cases hk : entry.1 = key
          · subst hk
            rw [get?_eq_none hentry, heq, get?_eq_none hother]
          · have hkey := hget key
            rwa [get?, if_neg hk, get?, if_neg (heq ▸ hk)] at hkey
        rw [hrest, Prod.ext heq hvalue]
      · have hkey := hget other.1
        rw [get?_eq_none, get?, if_pos rfl] at hkey
        · cases hkey
        · intro e he
          rcases List.mem_cons.mp he with rfl | he
          · exact hgt
          · exact lt_trans hgt (hentry e he)

theorem ofList_snoc (entries : List (String × α)) (e : String × α) :
    ofList (entries ++ [e]) = insert e.1 e.2 (ofList entries) := by
  unfold ofList
  rw [List.foldl_append]
  rfl

/-- The entries of a list in key order, each key once. -/
theorem ascending_ofList (entries : List (String × α)) : Ascending (ofList entries) := by
  induction entries using List.reverseRecOn with
  | nil => exact List.Pairwise.nil
  | append_singleton entries e ih =>
    rw [ofList_snoc]
    exact ascending_insert ih e.1 e.2

end Keyed

/-! ### The entries of rows -/

/-- The entry that a row gives to a map: the text of its key and the value of its other column,
which may be the same column.  A text is a key as it is, any other value with its JSON text. -/
def Row.entry? (key column : String) (row : Row) : Option (String × Json) :=
  match row.get? key, row.get? column with
  | some (.text s), some v => some (s, v)
  | some k, some v => some (k.write, v)
  | _, _ => none

/-- Taking out the key does no harm to another column. -/
theorem Builder.pluckRow_of_ne {key column : String} (h : key ≠ column) (row : Row) :
    pluckRow key column row = row.entry? key column := by
  unfold pluckRow Row.entry?
  rw [Keyed.get?_erase, if_neg h]
  cases row.get? key with
  | none => rfl
  | some k =>
    cases row.get? column with
    | none => cases k <;> rfl
    | some v => cases k <;> rfl

/-- No row gives an entry for a column that is both. -/
theorem Builder.pluckRow_self (key : String) (row : Row) : pluckRow key key row = none := by
  unfold pluckRow
  rw [Keyed.get?_erase, if_pos rfl]
  cases row.get? key <;> rfl

section Last

variable {f : Row → Option (String × Json)} {rows : List Row} {row : Row} {k : String} {v : Json}

/-- The last row that gives an entry with some key gives it this value. -/
def LastGives (f : Row → Option (String × Json)) (rows : List Row) (k : String) (v : Json) : Prop :=
  ∃ before row after, rows = before ++ row :: after ∧ f row = some (k, v) ∧
    ∀ later ∈ after, ∀ w, f later ≠ some (k, w)

theorem not_lastGives_nil : ¬LastGives f [] k v := by
  rintro ⟨before, row, after, hrows, -, -⟩
  simp at hrows

/-- The last row of all counts, and if it gives no entry with the key then those before it do. -/
theorem lastGives_snoc : LastGives f (rows ++ [row]) k v ↔
    f row = some (k, v) ∨ (∀ w, f row ≠ some (k, w)) ∧ LastGives f rows k v := by
  constructor
  · rintro ⟨before, first, after, hrows, hfirst, hafter⟩
    rcases List.eq_nil_or_concat' after with rfl | ⟨rest, last, rfl⟩
    · obtain ⟨-, hrow⟩ := List.append_inj' hrows rfl
      cases hrow
      exact Or.inl hfirst
    · have hsplit : rows ++ [row] = (before ++ first :: rest) ++ [last] := by
        rw [hrows, List.append_assoc, List.cons_append]
      obtain ⟨hfront, hrow⟩ := List.append_inj' hsplit rfl
      cases hrow
      refine Or.inr ⟨hafter row (by simp), before, first, rest, hfront, hfirst, ?_⟩
      intro later hlater
      exact hafter later (List.mem_append_left _ hlater)
  · rintro (hrow | ⟨hrow, before, first, after, rfl, hfirst, hafter⟩)
    · exact ⟨rows, row, [], rfl, hrow, fun _ h => by cases h⟩
    · refine ⟨before, first, after ++ [row], by simp, hfirst, ?_⟩
      intro later hlater
      rcases List.mem_append.mp hlater with hlater | hlater
      · exact hafter later hlater
      · rw [List.mem_singleton.mp hlater]
        exact hrow

/-- There is a last row with a key if there is any. -/
theorem exists_lastGives_iff :
    (∃ v, LastGives f rows k v) ↔ ∃ row ∈ rows, ∃ v, f row = some (k, v) := by
  induction rows using List.reverseRecOn with
  | nil =>
    constructor
    · rintro ⟨v, h⟩
      exact absurd h not_lastGives_nil
    · rintro ⟨row, hrow, -⟩
      cases hrow
  | append_singleton rows row ih =>
    simp only [lastGives_snoc, List.mem_append, List.mem_singleton]
    by_cases hrow : ∃ v, f row = some (k, v)
    · obtain ⟨v, hv⟩ := hrow
      exact iff_of_true ⟨v, Or.inl hv⟩ ⟨row, Or.inr rfl, v, hv⟩
    · have hnone : ∀ w, f row ≠ some (k, w) := fun w hw => hrow ⟨w, hw⟩
      constructor
      · rintro ⟨v, hv | ⟨-, hv⟩⟩
        · exact absurd hv (hnone v)
        · obtain ⟨earlier, hmem, hearlier⟩ := ih.mp ⟨v, hv⟩
          exact ⟨earlier, Or.inl hmem, hearlier⟩
      · rintro ⟨other, hmem | rfl, v, hv⟩
        · obtain ⟨w, hw⟩ := ih.mpr ⟨other, hmem, v, hv⟩
          exact ⟨w, Or.inr ⟨hnone, hw⟩⟩
        · exact absurd hv (hnone v)

/-- **What the entries of several rows make**: under each key stands the value that the last row
with this key gives it. -/
theorem get?_ofList_filterMap :
    (Keyed.ofList (rows.filterMap f)).get? k = some v ↔ LastGives f rows k v := by
  induction rows using List.reverseRecOn with
  | nil => exact iff_of_false (by simp [Keyed.ofList]) not_lastGives_nil
  | append_singleton rows row ih =>
    rw [lastGives_snoc, ← ih, List.filterMap_append]
    cases hrow : f row with
    | none => simp [hrow]
    | some e =>
      have hlast : [row].filterMap f = [e] := by simp [hrow]
      rw [hlast, Keyed.ofList_snoc, Keyed.get?_insert]
      obtain ⟨k', v'⟩ := e
      by_cases hk : k' = k
      · subst hk
        simp
      · simp [hk]

end Last

/-- The map of some rows: it has a key exactly if a row with both columns has this text as its key,
and the value is that of the last such row. -/
structure MapsRows (key column : String) (rows : List Row) (m : Keyed Json) : Prop where
  ordered : m.Ascending
  contains : ∀ k, (∃ v, m.get? k = some v) ↔
    ∃ row ∈ rows, ∃ v, row.entry? key column = some (k, v)
  last : ∀ k v, m.get? k = some v ↔ LastGives (Row.entry? key column) rows k v

theorem mapsRows_ofList (key column : String) (rows : List Row) :
    MapsRows key column rows (Keyed.ofList (rows.filterMap (Row.entry? key column))) where
  ordered := Keyed.ascending_ofList _
  contains k := by
    simp only [get?_ofList_filterMap]
    exact exists_lastGives_iff
  last _ _ := get?_ofList_filterMap

/-- Some rows have one map only. -/
theorem MapsRows.eq {key column : String} {rows : List Row} {m m' : Keyed Json}
    (h : MapsRows key column rows m) (h' : MapsRows key column rows m') : m = m' := by
  refine Keyed.eq_of_get? h.ordered h'.ordered fun k => ?_
  rw [Option.ext_iff]
  intro v
  rw [h.last, h'.last]

/-- The map is empty if no row gives an entry. -/
theorem mapsRows_nil_iff {key column : String} {rows : List Row} :
    MapsRows key column rows [] ↔ ∀ row ∈ rows, row.entry? key column = none := by
  constructor
  · intro h row hrow
    cases hentry : row.entry? key column with
    | none => rfl
    | some e =>
      obtain ⟨v, hv⟩ := (h.contains e.1).mpr ⟨row, hrow, e.2, hentry⟩
      cases hv
  · intro h
    have hnone : rows.filterMap (Row.entry? key column) = [] := by
      rw [List.filterMap_eq_nil_iff]
      exact h
    have hmaps := mapsRows_ofList key column rows
    rwa [hnone] at hmaps

/-! ### The verb -/

namespace Builder

variable {b : Builder} {backend : Backend} {rows : List Row} {key column : String}

/-- The statement compiles, and these are the rows that it is answered with. -/
def Fetches (b : Builder) (backend : Backend) (rows : List Row) : Prop :=
  ∃ q reply, b.clearExecution.compile = .ok q ∧ backend ⟨.fetchAll, q⟩ = .ok reply ∧
    reply.rows = rows

/-- `all` returns the rows that the statement is answered with. -/
theorem result_all_iff : (b.all backend).result = .ok rows ↔ b.Fetches backend rows := by
  unfold all Fetches
  cases hc : b.clearExecution.compile with
  | error e =>
    rw [perform_of_refused hc]
    simp [refuse]
  | ok q =>
    cases hreply : backend ⟨.fetchAll, q⟩ with
    | error e =>
      rw [perform_of_failed hc hreply]
      simp [hreply]
    | ok reply =>
      rw [perform_of_reply hc hreply]
      simp [hreply]

/-- With two names `pluck` returns what the entries of the rows make. -/
theorem result_pluck_iff (hkey : isBlankText key = false) (hcolumn : isBlankText column = false)
    {m : Keyed Json} :
    (b.pluck backend key column).result = .ok m ↔
      ∃ rows, b.Fetches backend rows ∧
        m = Keyed.ofList (rows.filterMap (pluckRow (trimmed key) (trimmed column))) := by
  have hnames : (isBlankText key || isBlankText column) = false := by rw [hkey, hcolumn]; rfl
  simp only [← result_all_iff]
  rw [pluck, if_neg (ne_true_of_eq_false hnames), Outcome.map]
  cases (b.all backend).result with
  | error e => simp [Except.map]
  | ok rows => simp [Except.map, eq_comm]

/-- **When `pluck` gives the map of the rows.**  With two names that are not blank it succeeds
exactly if rows are fetched, and gives each text of the key column the value of the other column in
the last row that has both — if the two columns are different, or no row has the column.  If they
are the same then the map is empty. -/
theorem pluck_mapsRows_iff (b : Builder) (backend : Backend) (hkey : isBlankText key = false)
    (hcolumn : isBlankText column = false) :
    ((∃ m, (b.pluck backend key column).result = .ok m) ↔ ∃ rows, b.Fetches backend rows) ∧
      ∀ rows m, b.Fetches backend rows → (b.pluck backend key column).result = .ok m →
        (MapsRows (trimmed key) (trimmed column) rows m ↔
          trimmed key ≠ trimmed column ∨ ∀ row ∈ rows, row.get? (trimmed key) = none) ∧
        (trimmed key = trimmed column → m = []) := by
  constructor
  · simp only [result_pluck_iff hkey hcolumn]
    constructor
    · rintro ⟨m, rows, hrows, -⟩
      exact ⟨rows, hrows⟩
    · rintro ⟨rows, hrows⟩
      exact ⟨_, rows, hrows, rfl⟩
  · intro rows m hrows hm
    obtain ⟨rows', hrows', rfl⟩ := (result_pluck_iff hkey hcolumn).mp hm
    obtain rfl : rows = rows' := by
      have hsame := (result_all_iff.mpr hrows).symm.trans (result_all_iff.mpr hrows')
      exact Except.ok.inj hsame
    by_cases hcolumns : trimmed key = trimmed column
    · -- nothing is left in a row for its own key
      have hnone : rows.filterMap (pluckRow (trimmed key) (trimmed column)) = [] := by
        rw [List.filterMap_eq_nil_iff, ← hcolumns]
        exact fun row _ => pluckRow_self _ row
      have hempty : Keyed.ofList (rows.filterMap (pluckRow (trimmed key) (trimmed column))) =
          [] := by
        rw [hnone]
        rfl
      refine ⟨?_, fun _ => hempty⟩
      rw [hempty, mapsRows_nil_iff, ← hcolumns]
      have hentry (row : Row) : row.entry? (trimmed key) (trimmed key) = none ↔
          row.get? (trimmed key) = none := by
        unfold Row.entry?
        cases row.get? (trimmed key) with
        | none => simp
        | some k => cases k <;> simp
      simp [hentry]
    · have hrow : pluckRow (trimmed key) (trimmed column) =
          Row.entry? (trimmed key) (trimmed column) :=
        funext fun row => pluckRow_of_ne hcolumns row
      rw [hrow]
      exact ⟨iff_of_true (mapsRows_ofList _ _ _) (Or.inl hcolumns),
        fun h => absurd h hcolumns⟩

/-- All users, of whom two have the same name and one has a number for a name. -/
def allUsers : Builder := (new .sqlite .default).run (.select (.named "users") [.star])

/-- The rows of the users. -/
def userRows : List Row :=
  [[("id", .ofInt 1), ("name", .text "Ann")], [("id", .ofInt 2), ("name", .ofInt 7)],
    [("id", .ofInt 3), ("name", .text "Ann")]]

/-- Each name is mapped to the number of the last user who has it. -/
theorem pluck_mapsRows_iff_users :
    isBlankText "name" = false ∧ isBlankText "id" = false ∧
      allUsers.Fetches (fun _ => .ok { Reply.empty with rows := userRows }) userRows ∧
      (allUsers.pluck (fun _ => .ok { Reply.empty with rows := userRows }) "name" "id").result =
        .ok [("7", .ofInt 2), ("Ann", .ofInt 3)] ∧
      MapsRows "name" "id" userRows [("7", .ofInt 2), ("Ann", .ofInt 3)] := by
  have hname : isBlankText "name" = false := by decide
  have hid : isBlankText "id" = false := by decide
  have hrows : allUsers.Fetches (fun _ => .ok { Reply.empty with rows := userRows }) userRows :=
    ⟨⟨"SELECT * FROM `users`;", []⟩, { Reply.empty with rows := userRows }, by rfl, rfl, rfl⟩
  have hresult : (allUsers.pluck (fun _ => .ok { Reply.empty with rows := userRows })
      "name" "id").result = .ok [("7", .ofInt 2), ("Ann", .ofInt 3)] := by rfl
  obtain ⟨hmaps, -⟩ := (pluck_mapsRows_iff allUsers _ hname hid).2 _ _ hrows hresult
  exact ⟨hname, hid, hrows, hresult, hmaps.mpr (Or.inl (by decide))⟩

/-- The names are not mapped to themselves: the map is empty, although there are names. -/
theorem column_by_itself_is_lost :
    (allUsers.pluck (fun _ => .ok { Reply.empty with rows := userRows }) "name" "name").result =
        .ok [] ∧
      ¬MapsRows "name" "name" userRows [] := by
  refine ⟨by rfl, ?_⟩
  rw [mapsRows_nil_iff]
  intro h
  have hfirst := h _ List.mem_cons_self
  cases hfirst

end Builder

end FluentSql
