import FieldConfig.Number.Double

set_option autoImplicit false

namespace FieldConfig

inductive Tree where
  | null
  | boolean (value : Bool)
  | integer (value : Int)
  | real (value : Double)
  | text (value : String)
  | array (items : List Tree)
  | object (members : List (String × Tree))
deriving Repr, Inhabited

namespace Tree

mutual
def same : (x y : Tree) → Decidable (x = y)
  | .null, .null => isTrue rfl
  | .boolean x, .boolean y => decidable_of_iff (x = y) (by simp)
  | .integer x, .integer y => decidable_of_iff (x = y) (by simp)
  | .real x, .real y => decidable_of_iff (x = y) (by simp)
  | .text x, .text y => decidable_of_iff (x = y) (by simp)
  | .array xs, .array ys =>
    match sameItems xs ys with
    | isTrue h => isTrue (by rw [h])
    | isFalse h => isFalse (by intro e; injection e; contradiction)
  | .object xs, .object ys =>
    match sameMembers xs ys with
    | isTrue h => isTrue (by rw [h])
    | isFalse h => isFalse (by intro e; injection e; contradiction)
  | .null, .boolean _ | .null, .integer _ | .null, .real _ | .null, .text _ | .null, .array _
  | .null, .object _
  | .boolean _, .null | .boolean _, .integer _ | .boolean _, .real _ | .boolean _, .text _
  | .boolean _, .array _ | .boolean _, .object _
  | .integer _, .null | .integer _, .boolean _ | .integer _, .real _ | .integer _, .text _
  | .integer _, .array _ | .integer _, .object _
  | .real _, .null | .real _, .boolean _ | .real _, .integer _ | .real _, .text _
  | .real _, .array _ | .real _, .object _
  | .text _, .null | .text _, .boolean _ | .text _, .integer _ | .text _, .real _
  | .text _, .array _ | .text _, .object _
  | .array _, .null | .array _, .boolean _ | .array _, .integer _ | .array _, .real _
  | .array _, .text _ | .array _, .object _
  | .object _, .null | .object _, .boolean _ | .object _, .integer _ | .object _, .real _
  | .object _, .text _ | .object _, .array _ => isFalse (by intro e; cases e)

def sameItems : (xs ys : List Tree) → Decidable (xs = ys)
  | [], [] => isTrue rfl
  | [], _ :: _ => isFalse (by intro e; cases e)
  | _ :: _, [] => isFalse (by intro e; cases e)
  | x :: xs, y :: ys =>
    match same x y, sameItems xs ys with
    | isTrue h, isTrue t => isTrue (by rw [h, t])
    | isFalse h, _ => isFalse (by intro e; injection e; contradiction)
    | _, isFalse t => isFalse (by intro e; injection e; contradiction)

def sameMembers : (xs ys : List (String × Tree)) → Decidable (xs = ys)
  | [], [] => isTrue rfl
  | [], _ :: _ => isFalse (by intro e; cases e)
  | _ :: _, [] => isFalse (by intro e; cases e)
  | (k, x) :: xs, (l, y) :: ys =>
    if key : k = l then
      match same x y, sameMembers xs ys with
      | isTrue h, isTrue t => isTrue (by rw [key, h, t])
      | isFalse h, _ => isFalse (by intro e; simp_all)
      | _, isFalse t => isFalse (by intro e; simp_all)
    else isFalse (by intro e; simp_all)
end

instance : DecidableEq Tree := same

end Tree
end FieldConfig
