import FieldConfig.Tree

set_option autoImplicit false

namespace FieldConfig.Tree

def children : Tree → List Tree
  | .array items => items
  | .object members => members.map Prod.snd
  | _ => []

inductive All (holds : Tree → Bool) : Tree → Prop where
  | node (tree : Tree) (here : holds tree = true)
      (inside : ∀ child ∈ tree.children, All holds child) : All holds tree

def isWhole : Tree → Bool
  | .real _ => false
  | _ => true

variable (holds : Tree → Bool)

theorem all_iff (tree : Tree) :
    All holds tree ↔ holds tree = true ∧ ∀ child ∈ tree.children, All holds child :=
  ⟨fun ⟨_, here, inside⟩ => ⟨here, inside⟩, fun ⟨here, inside⟩ => .node tree here inside⟩

theorem all_leaf (tree : Tree) (leaf : tree.children = []) :
    All holds tree ↔ holds tree = true := by
  rw [all_iff, leaf]
  exact and_iff_left (List.forall_mem_nil _)

theorem all_null : All holds .null ↔ holds .null = true := all_leaf holds .null rfl

theorem all_boolean (value : Bool) : All holds (.boolean value) ↔ holds (.boolean value) = true :=
  all_leaf holds (.boolean value) rfl

theorem all_integer (value : Int) : All holds (.integer value) ↔ holds (.integer value) = true :=
  all_leaf holds (.integer value) rfl

theorem all_text (value : String) : All holds (.text value) ↔ holds (.text value) = true :=
  all_leaf holds (.text value) rfl

theorem all_array (items : List Tree) :
    All holds (.array items) ↔ holds (.array items) = true ∧ ∀ item ∈ items, All holds item :=
  all_iff holds (.array items)

theorem all_object (members : List (String × Tree)) :
    All holds (.object members) ↔
      holds (.object members) = true ∧ ∀ member ∈ members, All holds member.2 := by
  rw [all_iff, children, List.forall_mem_map]

end FieldConfig.Tree
