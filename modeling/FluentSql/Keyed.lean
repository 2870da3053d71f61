/-!
# Lists of named entries in key order

The columns of a row, the members of an object and the assignments of a map are shown in the order
of their keys, whatever order they came in, and a key that comes twice keeps its last value.  Keys
are ordered by their code points, which is also the order of their UTF-8 bytes.

## Main definitions

* `Keyed` — named entries, in ascending order of their keys.
* `Keyed.insert`, `Keyed.erase`, `Keyed.get?`, `Keyed.ofList` — the operations of a map.

## Main results

* `Keyed.get?_insert`, `Keyed.get?_erase` — an insertion and a removal change the entry of their
  key and no other.
-/

namespace FluentSql

/-- Named entries, in ascending order of their keys. -/
abbrev Keyed (α : Type) := List (String × α)

namespace Keyed

variable {α : Type}

/-- The entries with one more; an entry with the same key is replaced. -/
def insert (key : String) (value : α) : Keyed α → Keyed α
  | [] => [(key, value)]
  | entry :: entries =>
    if key < entry.1 then (key, value) :: entry :: entries
    else if key = entry.1 then (key, value) :: entries
    else entry :: insert key value entries

/-- The entries without those of one key. -/
def erase (key : String) (entries : Keyed α) : Keyed α := entries.filter fun entry => entry.1 != key

/-- The value of a key. -/
def get? (key : String) : Keyed α → Option α
  | [] => none
  | entry :: entries => if entry.1 = key then some entry.2 else get? key entries

/-- The entries of a list in key order; of entries with the same key the last one counts. -/
def ofList (entries : List (String × α)) : Keyed α :=
  entries.foldl (fun m entry => insert entry.1 entry.2 m) []

@[simp] theorem get?_nil (key : String) : get? key ([] : Keyed α) = none := rfl

/-- An insertion changes the entry of its key and no other. -/
theorem get?_insert (key other : String) (value : α) (entries : Keyed α) :
    get? other (insert key value entries) =
      if key = other then some value else get? other entries := by
  induction entries with
  | nil => rfl
  | cons entry entries ih =>
    rw [insert]
    split
    · rfl
    · split
      · rename_i h
        subst h
        by_cases ho : entry.1 = other <;> simp [get?, ho]
      · rename_i h
        by_cases ho : entry.1 = other
        · simp [get?, ho, show key ≠ other from fun hk => h (hk.trans ho.symm)]
        · simp [get?, ho, ih]

/-- What is taken out is gone, and nothing else is. -/
theorem get?_erase (key other : String) (entries : Keyed α) :
    get? other (erase key entries) = if key = other then none else get? other entries := by
  induction entries with
  | nil => simp [erase]
  | cons entry entries ih =>
    rw [erase] at ih ⊢
    by_cases hk : entry.1 = key
    · rw [List.filter_cons_of_neg (by simp [hk]), ih, get?, hk]
      by_cases ho : key = other <;> simp [ho]
    · rw [List.filter_cons_of_pos (by simp [hk]), get?, ih, get?]
      by_cases ho : entry.1 = other
      · simp [ho, show key ≠ other from fun h => hk (ho.trans h.symm)]
      · simp [ho]

end Keyed

end FluentSql
