set_option autoImplicit false

namespace FieldConfig.Text

def cut? (mark : Char) : List Char → Option (List Char × List Char)
  | [] => none
  | c :: rest =>
    if c = mark then some ([], rest)
    else (cut? mark rest).map fun (before, behind) => (c :: before, behind)

def cutLast? (mark : Char) (chars : List Char) : Option (List Char × List Char) :=
  (cut? mark chars.reverse).map fun (behind, before) => (before.reverse, behind.reverse)

def pieces (mark : Char) : List Char → List (List Char)
  | [] => [[]]
  | c :: rest =>
    if c = mark then [] :: pieces mark rest
    else
      match pieces mark rest with
      | [] => [[c]]
      | piece :: others => (c :: piece) :: others

def join (mark : Char) : List (List Char) → List Char
  | [] => []
  | [piece] => piece
  | piece :: others => piece ++ mark :: join mark others

end FieldConfig.Text
