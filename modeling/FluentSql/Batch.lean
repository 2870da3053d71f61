import FluentSql.Keyed
import FluentSql.Value

/-!
# Data to insert and to assign

The rows of an INSERT, one value for each column, and the assignments of an UPDATE.

## Main definitions

* `Batch`, `Batch.ofPairs` — columns and rows.
* `Batch.isRectangular` — whether every row has one value for each column.

## Main results

* `Batch.getElem?_values` — the values of a row lie together, at a distance of one row from the
  next.
-/

namespace FluentSql

/-- A column and the value that it is given. -/
abbrev Assignment := String × Value

/-- Columns and rows of values for them. -/
structure Batch where
  /-- The columns, as the caller wrote them. -/
  columns : List String
  rows : List (List Value)
  deriving DecidableEq, Inhabited

namespace Batch

/-- One row given by its assignments; without assignments there is no row. -/
def ofPairs (pairs : List Assignment) : Batch :=
  ⟨pairs.map Prod.fst, if pairs.isEmpty then [] else [pairs.map Prod.snd]⟩

/-- Whether every row has one value for each column. -/
def isRectangular (b : Batch) : Bool := b.rows.all fun row => row.length == b.columns.length

/-- The values of all rows, row by row. -/
def values (b : Batch) : List Value := b.rows.flatten

/-! ### Row by row -/

variable {b : Batch}

theorem isRectangular_iff :
    b.isRectangular = true ↔ ∀ row ∈ b.rows, row.length = b.columns.length := by
  simp [isRectangular]

theorem length_values (h : b.isRectangular = true) :
    b.values.length = b.rows.length * b.columns.length := by
  rw [isRectangular] at h
  rw [values]
  generalize b.rows = rows at h ⊢
  induction rows with
  | nil => rw [List.flatten_nil, List.length_nil, List.length_nil, Nat.zero_mul]
  | cons row rows ih =>
    rw [List.all_cons, Bool.and_eq_true, beq_iff_eq] at h
    rw [List.flatten_cons, List.length_append, h.1, ih h.2, List.length_cons, Nat.succ_mul,
      Nat.add_comm]

/-- In front of a row stand as many values as the rows before it have together. -/
theorem getElem?_values (h : b.isRectangular = true) {j : Nat} (hj : j < b.columns.length)
    (i : Nat) : b.values[i * b.columns.length + j]? = b.rows[i]?.bind fun row => row[j]? := by
  rw [isRectangular_iff] at h
  rw [values]
  generalize b.rows = rows at h ⊢
  induction rows generalizing i with
  | nil => rfl
  | cons row rows ih =>
    obtain ⟨hrow, hrows⟩ := List.forall_mem_cons.mp h
    rw [List.flatten_cons]
    cases i with
    | zero =>
      rw [Nat.zero_mul, Nat.zero_add, List.getElem?_append_left (by omega)]
      rfl
    | succ i =>
      have hskip : (i + 1) * b.columns.length + j =
          row.length + (i * b.columns.length + j) := by
        rw [hrow, Nat.succ_mul]
        omega
      rw [hskip, List.getElem?_append_right (Nat.le_add_right _ _), Nat.add_sub_cancel_left,
        ih i hrows]
      rfl

end Batch

end FluentSql
