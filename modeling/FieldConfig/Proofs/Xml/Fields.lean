import FieldConfig.Proofs.Xml.Rendering
import FieldConfig.Tree.Json

set_option autoImplicit false

namespace FieldConfig.Xml

namespace Markup

def each {α : Type} (markup : Markup) (decode : Markup → Option α) : List α :=
  markup.children.filterMap decode

def first? {α : Type} (markup : Markup) (decode : Markup → Option α) : Option α :=
  (markup.each decode).head?

def texts (markup : Markup) (name : String) : List String :=
  markup.each fun child => if child.name = name then some child.text else none

def text? (markup : Markup) (name : String) : Option String := (markup.texts name).head?

def attribute? (markup : Markup) (key : String) : Option String := markup.attributes.lookup key

end Markup

theorem each_read {α : Type} (decode : Markup → Option α) (element : α → Element) (depth : Nat)
    (reads : ∀ value, decode ((element value).markup depth) = some value) (values : List α) :
    (Element.markups depth (values.map element)).filterMap decode = values := by
  rw [Element.markups_map, List.map_map, List.filterMap_map]
  simp [Function.comp_def, reads]

theorem each_foreign {α β : Type} (decode : Markup → Option β) (element : α → Element) (depth : Nat)
    (foreign : ∀ value, decode ((element value).markup depth) = none) (values : List α) :
    (Element.markups depth (values.map element)).filterMap decode = [] := by
  rw [Element.markups_map, List.map_map, List.filterMap_map]
  simp [Function.comp_def, foreign]

theorem each_append {α : Type} (decode : Markup → Option α) (depth : Nat)
    (before behind : List Element) :
    (Element.markups depth (before ++ behind)).filterMap decode =
      (Element.markups depth before).filterMap decode ++
        (Element.markups depth behind).filterMap decode := by
  rw [Element.markups_map, Element.markups_map, Element.markups_map, List.map_append,
    List.filterMap_append]

def natural? (text : String) : Option Nat :=
  if text ≠ "" ∧ text.toList.all Char.isDigit then some (Nat.ofDigitChars 10 text.toList 0) else none

def integer? (text : String) : Option Int :=
  match text.toList with
  | '-' :: digits => (natural? (String.ofList digits)).map fun n => -Int.ofNat n
  | _ => (natural? text).map Int.ofNat

def boolean? (text : String) : Option Bool :=
  if text = "true" then some true else if text = "false" then some false else none

theorem natural_read (n : Nat) : natural? (String.ofList (Nat.toDigits 10 n)) = some n := by
  have digits : (Nat.toDigits 10 n).all Char.isDigit = true :=
    List.all_eq_true.mpr fun c member =>
      Nat.isDigit_of_mem_toDigits (by decide) (by decide) member
  have written : String.ofList (Nat.toDigits 10 n) ≠ "" := by
    simp [Nat.toDigits_ne_nil]
  rw [natural?, String.toList_ofList, if_pos ⟨written, digits⟩, Nat.ofDigitChars_ten_toDigits]

theorem integer_read (n : Int) : integer? (String.ofList (Tree.jsonInteger n)) = some n := by
  rw [integer?, String.toList_ofList, Tree.jsonInteger]
  by_cases negative : n < 0
  · simp only [if_pos negative, natural_read, Option.map_some, Int.ofNat_eq_natCast]
    exact congrArg some (by omega)
  · rw [if_neg negative]
    split
    · next digits signed =>
        have first : '-' ∈ Nat.toDigits 10 n.natAbs := signed ▸ List.mem_cons_self
        exact absurd (Nat.isDigit_of_mem_toDigits (by decide) (by decide) first) (by decide)
    · rw [natural_read, Option.map_some, Int.ofNat_eq_natCast]
      exact congrArg some (by omega)

theorem boolean_read (value : Bool) : boolean? (if value then "true" else "false") = some value := by
  cases value <;> rfl

end FieldConfig.Xml
