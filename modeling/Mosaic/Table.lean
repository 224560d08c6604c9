/-!
# Tables

A `Table` finds a value by its key. It is a list of pairs in which the first pair with a key
counts; `insert` puts a pair in front of the others with the same key taken out, so each key occurs
at most once in a table built from `empty`.
-/

namespace Mosaic

/-- Values found by a key. -/
structure Table (κ α : Type) where
  entries : List (κ × α)
  deriving Repr

namespace Table

variable {κ α : Type} [DecidableEq κ]

/-- The table without entries. -/
def empty : Table κ α := ⟨[]⟩

instance : Inhabited (Table κ α) := ⟨empty⟩

/-- The value of the first pair with key `k` of a list. -/
def lookup (k : κ) : List (κ × α) → Option α
  | [] => none
  | (key, value) :: rest => if key = k then some value else lookup k rest

def get? (t : Table κ α) (k : κ) : Option α := lookup k t.entries

/-- The pairs of a list with any other key than `k`. -/
def without (k : κ) (entries : List (κ × α)) : List (κ × α) :=
  entries.filter fun entry => entry.1 ≠ k

/-- The table without a value for `k`. -/
def erase (t : Table κ α) (k : κ) : Table κ α := ⟨without k t.entries⟩

/-- The table in which `k` has the value `a`. -/
def insert (t : Table κ α) (k : κ) (a : α) : Table κ α := ⟨(k, a) :: without k t.entries⟩

def contains (t : Table κ α) (k : κ) : Bool := (t.get? k).isSome

def size (t : Table κ α) : Nat := t.entries.length

@[simp] theorem get?_empty (k : κ) : (empty : Table κ α).get? k = none := rfl

theorem lookup_without_self (k : κ) (entries : List (κ × α)) :
    lookup k (without k entries) = none := by
  induction entries with
  | nil => rfl
  | cons entry rest ih =>
    by_cases h : entry.1 = k <;> simp_all [without, lookup]

theorem lookup_without_of_ne {k j : κ} (h : j ≠ k) (entries : List (κ × α)) :
    lookup j (without k entries) = lookup j entries := by
  induction entries with
  | nil => rfl
  | cons entry rest ih =>
    by_cases hk : entry.1 = k
    · have hj : entry.1 ≠ j := fun e => h (e ▸ hk)
      simp_all [without, lookup]
    · by_cases hj : entry.1 = j <;> simp_all [without, lookup]

@[simp] theorem get?_insert_self (t : Table κ α) (k : κ) (a : α) :
    (t.insert k a).get? k = some a := by simp [insert, get?, lookup]

theorem get?_insert_of_ne {k j : κ} (h : j ≠ k) (t : Table κ α) (a : α) :
    (t.insert k a).get? j = t.get? j := by
  simp [insert, get?, lookup, h.symm, lookup_without_of_ne h]

@[simp] theorem get?_erase_self (t : Table κ α) (k : κ) : (t.erase k).get? k = none :=
  lookup_without_self k t.entries

theorem get?_erase_of_ne {k j : κ} (h : j ≠ k) (t : Table κ α) :
    (t.erase k).get? j = t.get? j := lookup_without_of_ne h t.entries

end Table

end Mosaic
