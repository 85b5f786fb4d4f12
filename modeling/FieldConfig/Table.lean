set_option autoImplicit false

/-!
Tables from text to values that remember the order in which their keys came first. Catalog
fields, logic variables and labels are numbered and written in that order.
-/
namespace FieldConfig

structure Table (α : Type) where
  entries : List (String × α) := []
deriving DecidableEq, Repr

namespace Table

variable {α β : Type}

instance : EmptyCollection (Table α) := ⟨⟨[]⟩⟩
instance : Inhabited (Table α) := ⟨∅⟩

def put (key : String) (value : α) : List (String × α) → List (String × α)
  | [] => [(key, value)]
  | (k, v) :: rest => if k = key then (k, value) :: rest else (k, v) :: put key value rest

def insert (table : Table α) (key : String) (value : α) : Table α :=
  ⟨put key value table.entries⟩

def get? (table : Table α) (key : String) : Option α := table.entries.lookup key

def contains (table : Table α) (key : String) : Bool := (table.get? key).isSome

def keys (table : Table α) : List String := table.entries.map Prod.fst

def size (table : Table α) : Nat := table.entries.length

def isEmpty (table : Table α) : Bool := table.entries.isEmpty

def merge (table other : Table α) : Table α :=
  other.entries.foldl (fun merged entry => merged.insert entry.1 entry.2) table

-- Of entries with one key the first gives the place and the last the value.
def ofList (entries : List (String × α)) : Table α := merge ∅ ⟨entries⟩

theorem lookup_put (key other : String) (value : α) (entries : List (String × α)) :
    (put key value entries).lookup other =
      if other = key then some value else entries.lookup other := by
  induction entries with
  | nil => by_cases same : other = key <;> simp [put, same]
  | cons entry rest ih =>
      obtain ⟨k, v⟩ := entry
      by_cases here : k = key
      · subst here
        by_cases same : other = k
        · simp [put, same]
        · have apart : (other == k) = false := beq_false_of_ne same
          simp [put, List.lookup_cons, same, apart]
      · by_cases met : other = k
        · have different : other ≠ key := fun same => here (met.symm.trans same)
          simp [put, here, met]
        · have apart : (other == k) = false := beq_false_of_ne met
          simp [put, here, List.lookup_cons, apart, ih]

@[simp] theorem get_empty (key : String) : (∅ : Table α).get? key = none := rfl

@[simp] theorem get_insert (table : Table α) (key other : String) (value : α) :
    (table.insert key value).get? other =
      if other = key then some value else table.get? other :=
  lookup_put key other value table.entries

end Table
end FieldConfig
