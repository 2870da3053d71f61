import FluentSql.Keyed
import FluentSql.Number.Binary

/-!
# JSON values

The values that rows hold and that can be bound as a document.  A number is an integer when it is
written without point and exponent and fits 64 bits, and a floating point number otherwise; the two
stay apart, so `1` and `1.0` are different values.  Members of an object stand in key order.

## Main definitions

* `Json.Number`, `Json` — numbers and values.
* `Json.integer?`, `Json.text?` — the integer of 64 bits or the text that a value is.
-/

namespace FluentSql

/-- A number of a JSON value. -/
inductive Json.Number where
  /-- A whole number between `-2 ^ 63` and `2 ^ 64`. -/
  | integer (n : Int)
  /-- A floating point number. -/
  | double (x : Binary .double)
  deriving DecidableEq, Repr

/-- A JSON value. -/
inductive Json where
  | null
  | bool (b : Bool)
  | number (n : Json.Number)
  | text (s : String)
  | array (items : List Json)
  | object (members : List (String × Json))
  deriving Repr, Inhabited

namespace Json

/-! ### Equality -/

mutual

/-- Whether two values are the same, constructor by constructor. -/
def decEq : (a b : Json) → Decidable (a = b)
  | null, null => isTrue rfl
  | bool b, bool c => if h : b = c then isTrue (by rw [h]) else isFalse (by simp [h])
  | number m, number n => if h : m = n then isTrue (by rw [h]) else isFalse (by simp [h])
  | text s, text t => if h : s = t then isTrue (by rw [h]) else isFalse (by simp [h])
  | array xs, array ys =>
    match decEqItems xs ys with
    | isTrue h => isTrue (by rw [h])
    | isFalse h => isFalse (by simp [h])
  | object xs, object ys =>
    match decEqMembers xs ys with
    | isTrue h => isTrue (by rw [h])
    | isFalse h => isFalse (by simp [h])
  | null, bool _ | null, number _ | null, text _ | null, array _ | null, object _
  | bool _, null | bool _, number _ | bool _, text _ | bool _, array _ | bool _, object _
  | number _, null | number _, bool _ | number _, text _ | number _, array _
  | number _, object _ | text _, null | text _, bool _ | text _, number _ | text _, array _
  | text _, object _ | array _, null | array _, bool _ | array _, number _
  | array _, text _ | array _, object _ | object _, null | object _, bool _
  | object _, number _ | object _, text _ | object _, array _ => isFalse (by simp)

/-- Whether two lists of items are the same. -/
def decEqItems : (xs ys : List Json) → Decidable (xs = ys)
  | [], [] => isTrue rfl
  | x :: xs, y :: ys =>
    match decEq x y, decEqItems xs ys with
    | isTrue h, isTrue k => isTrue (by rw [h, k])
    | isFalse h, _ => isFalse (by simp [h])
    | _, isFalse h => isFalse (by simp [h])
  | [], _ :: _ | _ :: _, [] => isFalse (by simp)

/-- Whether two lists of members are the same. -/
def decEqMembers : (xs ys : List (String × Json)) → Decidable (xs = ys)
  | [], [] => isTrue rfl
  | (k, x) :: xs, (l, y) :: ys =>
    match decEq x y, decEqMembers xs ys with
    | isTrue h, isTrue i =>
      if j : k = l then isTrue (by rw [h, i, j]) else isFalse (by simp [j])
    | isFalse h, _ => isFalse (by simp [h])
    | _, isFalse h => isFalse (by simp [h])
  | [], _ :: _ | _ :: _, [] => isFalse (by simp)

end

instance : DecidableEq Json := decEq

/-! ### Making and reading values -/

/-- An integer as a value. -/
def ofInt (n : Int) : Json := .number (.integer n)

/-- A floating point number as a value; what is not finite has none but `null`. -/
def ofDouble (x : Binary .double) : Json := if x.isFinite then .number (.double x) else .null

/-- The signed integer of 64 bits that a value is. -/
def integer? : Json → Option Int
  | .number (.integer n) => if n ≤ Int64.maxValue.toInt then some n else none
  | _ => none

/-- The text that a value is. -/
def text? : Json → Option String
  | .text s => some s
  | _ => none

end Json

end FluentSql
