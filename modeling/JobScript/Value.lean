import JobScript.Calendar
import JobScript.Number.Double

/-! # Values of a configuration

What a configuration file or a caller may put into a field: scalars, sequences, mappings and sets.
A mapping keeps its keys in the order in which they came.
-/

namespace JobScript

open Calendar Number

inductive Value
  | null
  | bool (b : Bool)
  | int (n : Int)
  | float (x : Double)
  | str (s : String)
  | bytes (bytes : List UInt8)
  | date (d : Date)
  | moment (m : Moment)
  | seq (items : List Value)
  | map (entries : List (Value × Value))
  | set (items : List Value)
deriving Repr, Inhabited

namespace Value

/-- The number that a scalar stands for, where it is a whole one; truth counts as one. -/
def whole? : Value → Option Int
  | .bool b => some (if b then 1 else 0)
  | .int n => some n
  | _ => none

/-- Two scalars name the same key. Numbers are compared by value, so `1`, `1.0` and truth are one
key; collections are no keys. -/
def sameKey (a b : Value) : Bool :=
  match a, b with
  | .float x, .float y => x.numEq y
  | .float x, b => (b.whole?.map x.eqInt).getD false
  | a, .float y => (a.whole?.map y.eqInt).getD false
  | .null, .null => true
  | .str s, .str t => s == t
  | .bytes s, .bytes t => s == t
  | .date d, .date e => d == e
  | .moment m, .moment n => m.same n
  | a, b => match a.whole?, b.whole? with
    | some m, some n => m == n
    | _, _ => false

abbrev Entries := List (Value × Value)

/-- An entry under a key that is there keeps the first spelling of the key and takes the new value. -/
def insertBy {κ : Type} (same : κ → κ → Bool) (key : κ) (value : Value) :
    List (κ × Value) → List (κ × Value)
  | [] => [(key, value)]
  | (k, v) :: rest =>
    if same k key then (k, value) :: rest else (k, v) :: insertBy same key value rest

def Entries.get? (name : String) : Entries → Option Value
  | [] => none
  | (k, v) :: rest => if k.sameKey (.str name) then some v else get? name rest

def Entries.erase (name : String) (entries : Entries) : Entries :=
  entries.filter fun entry => !entry.1.sameKey (.str name)

def Entries.put (name : String) (value : Value) (entries : Entries) : Entries :=
  insertBy sameKey (.str name) value entries

/-- Only the text itself is the same key as a text. -/
theorem sameKey_str_iff {k : Value} {s : String} : k.sameKey (.str s) = true ↔ k = .str s := by
  cases k <;> simp [sameKey, whole?]

@[simp] theorem Entries.get?_nil (name : String) : Entries.get? name [] = none := rfl

theorem Entries.get?_put_self (entries : Entries) (name : String) (value : Value) :
    (entries.put name value).get? name = some value := by
  unfold Entries.put
  induction entries with
  | nil => simp [insertBy, Entries.get?, sameKey]
  | cons entry rest ih =>
    by_cases h : entry.1.sameKey (.str name) = true <;> simp [insertBy, Entries.get?, h, ih]

theorem Entries.get?_put_of_ne (entries : Entries) {name other : String} (value : Value)
    (h : other ≠ name) : (entries.put name value).get? other = entries.get? other := by
  unfold Entries.put
  induction entries with
  | nil => simp [insertBy, Entries.get?, sameKey, Ne.symm h]
  | cons entry rest ih =>
    by_cases hk : entry.1.sameKey (.str name) = true
    · have ho : entry.1.sameKey (.str other) = false := by
        rw [sameKey_str_iff.1 hk]
        simp [sameKey, Ne.symm h]
      simp [insertBy, Entries.get?, hk, ho]
    · simp [insertBy, Entries.get?, hk, ih]

theorem Entries.get?_erase (entries : Entries) (name other : String) :
    (entries.erase name).get? other = if other = name then none else entries.get? other := by
  unfold Entries.erase
  induction entries with
  | nil => simp
  | cons entry rest ih =>
    by_cases hk : entry.1.sameKey (.str name) = true
    · rw [List.filter_cons_of_neg (by simp [hk]), ih]
      by_cases ho : other = name
      · rw [if_pos ho, if_pos ho]
      · have hother : entry.1.sameKey (.str other) = false := by
          rw [sameKey_str_iff.1 hk]
          simp [sameKey, Ne.symm ho]
        rw [if_neg ho, if_neg ho]
        simp [Entries.get?, hother]
    · rw [List.filter_cons_of_pos (by simp [hk])]
      by_cases ho : other = name
      · subst ho
        simp [Entries.get?, hk, ih]
      · simp only [Entries.get?, ih, if_neg ho]

def isGiven : Value → Bool
  | .null => false
  | _ => true

theorem isGiven_iff {v : Value} : v.isGiven = true ↔ v ≠ .null := by
  cases v <;> simp [isGiven]

/-- Nothing, falsehood, zero and whatever is empty count as false. -/
def truthy : Value → Bool
  | .null => false
  | .bool b => b
  | .int n => n != 0
  | .float x => !x.isZero
  | .str s => !s.isEmpty
  | .bytes b => !b.isEmpty
  | .date _ => true
  | .moment _ => true
  | .seq items => !items.isEmpty
  | .map entries => !entries.isEmpty
  | .set items => !items.isEmpty

/-- The word for a kind of value in messages. -/
def kind : Value → String
  | .null => "NoneType"
  | .bool _ => "bool"
  | .int _ => "int"
  | .float _ => "float"
  | .str _ => "str"
  | .bytes _ => "bytes"
  | .date _ => "date"
  | .moment _ => "datetime"
  | .seq _ => "list"
  | .map _ => "dict"
  | .set _ => "set"

end Value

end JobScript
