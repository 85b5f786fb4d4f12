import FieldConfig.Proofs.Xml.Rendering

set_option autoImplicit false

namespace FieldConfig.Xml

def nameStarts : List (Nat × Nat) :=
  [(0x3a, 0x3a), (0x41, 0x5a), (0x5f, 0x5f), (0x61, 0x7a), (0xc0, 0xd6), (0xd8, 0xf6),
   (0xf8, 0x2ff), (0x370, 0x37d), (0x37f, 0x1fff), (0x200c, 0x200d), (0x2070, 0x218f),
   (0x2c00, 0x2fef), (0x3001, 0xd7ff), (0xf900, 0xfdcf), (0xfdf0, 0xfffd), (0x10000, 0xeffff)]

def nameExtras : List (Nat × Nat) :=
  [(0x2d, 0x2e), (0x30, 0x39), (0xb7, 0xb7), (0x300, 0x36f), (0x203f, 0x2040)]

def among (ranges : List (Nat × Nat)) (c : Char) : Bool :=
  ranges.any fun (low, high) => low ≤ c.toNat && c.toNat ≤ high

def startsName (c : Char) : Bool := among nameStarts c

def continuesName (c : Char) : Bool := startsName c || among nameExtras c

def isLegal (name : String) : Bool :=
  match name.toList with
  | [] => false
  | c :: rest => startsName c && rest.all continuesName

theorem legal_named (name : String) (legal : isLegal name = true) : IsName name := by
  have marks : [' ', '!', '"', '/', '<', '=', '>'].all (!continuesName ·) = true := by decide
  rw [isLegal] at legal
  cases chars : name.toList with
  | nil => simp [chars] at legal
  | cons first rest =>
      simp only [chars, Bool.and_eq_true, List.all_eq_true] at legal
      have continues : ∀ c ∈ name.toList, continuesName c = true := by
        rw [chars]
        refine List.forall_mem_cons.mpr ⟨?_, legal.2⟩
        rw [continuesName, legal.1, Bool.true_or]
      refine ⟨fun empty => by simp [empty] at chars, fun c member mark => ?_⟩
      have stops := List.all_eq_true.mp marks c mark
      rw [continues c member] at stops
      exact absurd stops (by decide)

namespace Markup

mutual
def names : Markup → List String
  | ⟨name, _, _, children⟩ => name :: namesOf children

def namesOf : List Markup → List String
  | [] => []
  | child :: rest => child.names ++ namesOf rest
end

theorem names_of_each (children : List Markup) : namesOf children = children.flatMap names := by
  induction children with
  | nil => rfl
  | cons child rest ih => rw [namesOf, ih, List.flatMap_cons]

def named (markup : Markup) (name : String) : List Markup := markup.children.filter (·.name == name)

theorem names_children (markup : Markup) :
    markup.names = markup.name :: markup.children.flatMap names := by
  cases markup
  rw [names, names_of_each]

theorem own_name (markup : Markup) : markup.name ∈ markup.names := by
  rw [names_children]
  exact List.mem_cons_self

theorem child_names (markup child : Markup) (inside : child ∈ markup.children) :
    child.names ⊆ markup.names := by
  rw [names_children markup]
  exact fun name member => List.mem_cons_of_mem _ (List.mem_flatMap.mpr ⟨child, inside, member⟩)

theorem named_child (markup : Markup) (name : String) (child : Markup)
    (found : child ∈ markup.named name) : child ∈ markup.children :=
  (List.mem_filter.mp found).1

end Markup

theorem Element.names_branch (name : String) (attributes : List (String × String))
    (children : List Element) (depth : Nat) :
    ((Element.branch name attributes children).markup depth).names =
      name :: children.flatMap fun child => (child.markup (depth + 1)).names := by
  rw [markup, Markup.names, Markup.names_of_each, markups_map, List.flatMap_map]

theorem Element.name_markup (element : Element) (depth : Nat) :
    (element.markup depth).name = element.name := by
  cases element <;> rfl

end FieldConfig.Xml
