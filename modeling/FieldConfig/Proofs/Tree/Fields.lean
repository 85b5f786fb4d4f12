import FieldConfig.Tree

set_option autoImplicit false

namespace FieldConfig.Tree

def field? (tree : Tree) (key : String) : Option Tree :=
  match tree with
  | .object members => members.lookup key
  | _ => none

def asText? : Tree → Option String
  | .text value => some value
  | _ => none

def asBoolean? : Tree → Option Bool
  | .boolean value => some value
  | _ => none

def asInteger? : Tree → Option Int
  | .integer value => some value
  | _ => none

def asNatural? : Tree → Option Nat
  | .integer (.ofNat value) => some value
  | _ => none

variable {α : Type}

def asList? (decode : Tree → Option α) : Tree → Option (List α)
  | .array items => items.mapM decode
  | _ => none

def asEntries? (decode : Tree → Option α) : Tree → Option (List (String × α))
  | .object members => members.mapM fun (key, value) => (decode value).map fun value => (key, value)
  | _ => none

def text? (tree : Tree) (key : String) : Option String := (tree.field? key).bind asText?

def boolean? (tree : Tree) (key : String) : Option Bool := (tree.field? key).bind asBoolean?

def integer? (tree : Tree) (key : String) : Option Int := (tree.field? key).bind asInteger?

def natural? (tree : Tree) (key : String) : Option Nat := (tree.field? key).bind asNatural?

def list? (tree : Tree) (key : String) (decode : Tree → Option α) : Option (List α) :=
  (tree.field? key).bind (asList? decode)

def entries? (tree : Tree) (key : String) (decode : Tree → Option α) :
    Option (List (String × α)) :=
  (tree.field? key).bind (asEntries? decode)

theorem all_read {β : Type} (decode : β → Option α) (write : α → β)
    (reads : ∀ value, decode (write value) = some value) (values : List α) :
    (values.map write).mapM decode = some values := by
  induction values with
  | nil => rfl
  | cons value rest ih =>
      rw [List.map_cons, List.mapM_cons, reads, ih]
      rfl

theorem part_read (decode : Tree → Option α) (tree : α → Tree)
    (reads : ∀ value, decode (tree value) = some value) (value : Option α) :
    (value.map tree).bind decode = value := by
  cases value with
  | none => rfl
  | some value => exact reads value

theorem list_read (decode : Tree → Option α) (tree : α → Tree)
    (reads : ∀ value, decode (tree value) = some value) (values : List α) :
    asList? decode (.array (values.map tree)) = some values :=
  all_read decode tree reads values

theorem entries_read (decode : Tree → Option α) (tree : α → Tree)
    (reads : ∀ value, decode (tree value) = some value) (entries : List (String × α)) :
    asEntries? decode (.object (entries.map fun (key, value) => (key, tree value))) =
      some entries := by
  refine all_read _ _ (fun entry => ?_) entries
  simp only [reads, Option.map_some]

end FieldConfig.Tree
