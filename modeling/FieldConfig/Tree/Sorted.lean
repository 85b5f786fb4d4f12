import FieldConfig.Tree

set_option autoImplicit false

/-!
Trees in sorted form: the members of every object stand in the order of their keys, a repeated key
keeps its last value, and a number that is not finite is null.
-/
namespace FieldConfig.Tree

variable {α : Type}

def putSorted (key : String) (value : α) : List (String × α) → List (String × α)
  | [] => [(key, value)]
  | (k, v) :: rest =>
    if key = k then (key, value) :: rest
    else if key < k then (key, value) :: (k, v) :: rest
    else (k, v) :: putSorted key value rest

mutual
def sorted : Tree → Tree
  | .null => .null
  | .boolean value => .boolean value
  | .integer value => .integer value
  | .real value => if value.isFinite then .real value else .null
  | .text value => .text value
  | .array items => .array (sortedItems items)
  | .object members => .object (sortedMembers [] members)

def sortedItems : List Tree → List Tree
  | [] => []
  | item :: rest => item.sorted :: sortedItems rest

def sortedMembers (done : List (String × Tree)) : List (String × Tree) → List (String × Tree)
  | [] => done
  | (key, value) :: rest => sortedMembers (putSorted key value.sorted done) rest
end

end FieldConfig.Tree
