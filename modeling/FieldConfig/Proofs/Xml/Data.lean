import FieldConfig.Proofs.Text.Occurrence
import FieldConfig.Proofs.Xml.Rendering

set_option autoImplicit false

-- CDATA as it stands in the text: everything up to the first `]]>`. What is written with it is got
-- back unless it has that mark in itself.
namespace FieldConfig.Xml

def data? (name : String) (chars : List Char) : Option (List Char) := do
  let (_, content) ← Text.cutAt? (openTag name []) chars
  if "<![CDATA[".toList <+: content then
    let (data, behind) ← Text.cutAt? "]]>".toList (content.drop "<![CDATA[".length)
    if closeTag name <+: behind then some data else none
  else none

-- A text may end in brackets, with which the mark would begin; it is the next one that ends it.
theorem cut_data (text behind : List Char) (whole : ¬ "]]>".toList <:+: text) :
    Text.cutAt? "]]>".toList (text ++ ("]]>".toList ++ behind)) = some (text, behind) := by
  induction text with
  | nil => exact Text.cut_here _ behind (by decide)
  | cons c rest ih =>
      have mark : "]]>".toList = [']', ']', '>'] := rfl
      rw [mark] at whole ih ⊢
      obtain ⟨first, later⟩ := not_or.mp (mt List.infix_cons_iff.mpr whole)
      have other : ¬ [']', ']', '>'] <+: c :: (rest ++ ([']', ']', '>'] ++ behind)) := by
        intro begins
        cases rest with
        | nil => simp [List.cons_prefix_cons] at begins
        | cons second rest =>
            cases rest with
            | nil => simp [List.cons_prefix_cons] at begins
            | cons third rest =>
                simp only [List.cons_append, List.cons_prefix_cons, List.nil_prefix, and_true]
                  at begins first
                exact first begins
      rw [List.cons_append, Text.cutAt?, if_neg other, ih later, Option.map_some]

theorem data_read (name : String) (before text behind : List Char)
    (passed : Text.Passed (openTag name []) before) :
    data? name (before ++ (openTag name [] ++ ("<![CDATA[".toList ++
        (text ++ ("]]>".toList ++ (closeTag name ++ behind)))))) = some text ↔
      ¬ "]]>".toList <:+: text := by
  have written : openTag name [] ≠ [] := by simp [openTag]
  have opened (chars : List Char) :
      ("<![CDATA[".toList ++ chars).drop "<![CDATA[".length = chars := List.drop_left
  have reads : data? name (before ++ (openTag name [] ++ ("<![CDATA[".toList ++
      (text ++ ("]]>".toList ++ (closeTag name ++ behind)))))) = (do
        let (data, behind) ← Text.cutAt? "]]>".toList
          (text ++ ("]]>".toList ++ (closeTag name ++ behind)))
        if closeTag name <+: behind then some data else none) := by
    rw [data?, Text.cut_passed _ _ _ written passed]
    simp only [Option.bind_eq_bind, Option.bind_some, List.prefix_append, if_true, opened]
  rw [reads]
  constructor
  · intro found
    obtain ⟨⟨data, rest⟩, cut, closed⟩ := Option.bind_eq_some_iff.mp found
    have same : data = text := by
      by_cases ends : closeTag name <+: rest
      · simpa [ends] using closed
      · simp [ends] at closed
    exact same ▸ (Text.cut_parts _ (by decide) _ data rest cut).2
  · intro whole
    rw [cut_data text _ whole]
    simp

theorem names_agree (name other : String) (named : IsName name) (otherNamed : IsName other)
    (attributes : List (String × String)) (behind : List Char)
    (begins : name.toList ++ ['>'] <+: other.toList ++ attributes.flatMap writeAttribute ++
      '>' :: behind) : name = other := by
  obtain ⟨rest, same⟩ := begins
  have goesOn (name : String) (named : IsName name) :
      ∀ c ∈ name.toList, decide (c ∉ [' ', '>']) = true := by
    intro c member
    have blank := named.absent ' ' (by decide)
    have mark := named.absent '>' (by decide)
    simpa using ⟨fun same => blank (same ▸ member), fun same => mark (same ▸ member)⟩
  have taken := congrArg (List.takeWhile fun c => decide (c ∉ [' ', '>'])) same
  rw [List.append_assoc, List.append_assoc, List.takeWhile_append_of_pos (goesOn name named),
    List.takeWhile_append_of_pos (goesOn other otherNamed)] at taken
  apply String.toList_inj.mp
  cases attributes <;> simpa [writeAttribute] using taken

theorem open_passed (name other : String) (named : IsName name) (otherNamed : IsName other)
    (apart : name ≠ other) (attributes : List (String × String))
    (keys : ∀ pair ∈ attributes, IsName pair.1) :
    Text.Passed (openTag name []) (openTag other attributes) := by
  have bare : '<' ∉ other.toList ++ attributes.flatMap writeAttribute ++ ['>'] := by
    simpa [otherNamed.absent '<' (by decide)] using attributes_clean '<' (by decide) attributes keys
  refine Text.passed_cons _ '<' _ (fun behind begins => apart ?_) (Text.passed_plain '<' _ _ bare)
  refine names_agree name other named otherNamed attributes behind ?_
  simpa [openTag] using begins

theorem close_passed (name other : String) (named : IsName name) (otherNamed : IsName other) :
    Text.Passed (openTag name []) (closeTag other) := by
  have bare : '<' ∉ '/' :: (other.toList ++ ['>']) := by
    simp [otherNamed.absent '<' (by decide)]
  refine Text.passed_cons _ '<' _ (fun behind begins => ?_) (Text.passed_plain '<' _ _ bare)
  obtain ⟨first, rest, chars, plain⟩ := named.first
  simp [openTag, chars, List.cons_prefix_cons] at begins
  simp [begins.1] at plain

theorem escaped_passed (name : String) (text : List Char) :
    Text.Passed (openTag name []) (escape text) :=
  Text.passed_plain '<' _ _ (escape_clean '<' (by decide) text)

theorem line_passed (name : String) (depth : Nat) : Text.Passed (openTag name []) (line depth) :=
  Text.passed_plain '<' _ _ (line_plain depth '<' (by decide))

end FieldConfig.Xml
