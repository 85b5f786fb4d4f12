import FieldConfig.Proofs.Text.Split
import FieldConfig.Xml
import Mathlib.Data.List.TakeWhile

set_option autoImplicit false

-- A reader of XML text. It knows tags, attributes in quotation marks, the five entities and CDATA,
-- and gets back from a written element its tags, its attributes and its text, whatever characters
-- these have.
namespace FieldConfig.Xml

structure Markup where
  name : String
  attributes : List (String × String)
  text : String
  children : List Markup

def unescape : List Char → Option (List Char)
  | [] => some []
  | '&' :: 'l' :: 't' :: ';' :: rest => (unescape rest).map ('<' :: ·)
  | '&' :: 'g' :: 't' :: ';' :: rest => (unescape rest).map ('>' :: ·)
  | '&' :: 'a' :: 'm' :: 'p' :: ';' :: rest => (unescape rest).map ('&' :: ·)
  | '&' :: 'a' :: 'p' :: 'o' :: 's' :: ';' :: rest => (unescape rest).map ('\'' :: ·)
  | '&' :: 'q' :: 'u' :: 'o' :: 't' :: ';' :: rest => (unescape rest).map ('"' :: ·)
  | '&' :: _ => none
  | c :: rest => (unescape rest).map (c :: ·)

-- The attributes in a tag that was cut at its quotation marks: keys and values by turns.
def attributes? : List (List Char) → Option (List (String × String))
  | [[]] => some []
  | (' ' :: key) :: value :: rest =>
    match Text.cut? '=' key with
    | some (key, []) =>
      (unescape value).bind fun value =>
        (attributes? rest).map ((String.ofList key, String.ofList value) :: ·)
    | _ => none
  | _ => none

structure Pending where
  name : String
  attributes : List (String × String) := []
  text : List Char := []
  children : List Markup := []

namespace Pending

def close (pending : Pending) : Markup :=
  ⟨pending.name, pending.attributes, String.ofList pending.text, pending.children⟩

def addText (text : List Char) (pending : Pending) : Pending :=
  { pending with text := pending.text ++ text }

def addChild (child : Markup) (pending : Pending) : Pending :=
  { pending with children := pending.children ++ [child] }

end Pending

inductive Place where
  | content
  | tag
  | data

-- What was read since the last mark, in which place, inside which elements. The innermost stands
-- first and is split off, since there is always one: last comes the text as a whole.
structure Reader where
  place : Place
  seen : List Char
  inner : Pending
  outer : List Pending

namespace Reader

def start : Reader := ⟨.content, [], { name := "" }, []⟩

def endTag? (name : List Char) (inner : Pending) : List Pending → Option Reader
  | [] => none
  | parent :: outer =>
    if inner.name = String.ofList name then
      some ⟨.content, [], parent.addChild inner.close, outer⟩
    else none

def startTag? (tag : List Char) (inner : Pending) (outer : List Pending) : Option Reader :=
  (attributes? (Text.pieces '"' (tag.dropWhile (· ≠ ' ')))).map fun attributes =>
    ⟨.content, [], { name := String.ofList (tag.takeWhile (· ≠ ' ')), attributes }, inner :: outer⟩

def step (reader : Reader) (c : Char) : Option Reader :=
  let seen := reader.seen ++ [c]
  match reader.place with
  | .content =>
    if c = '<' then
      (unescape reader.seen).map fun text =>
        { reader with place := .tag, seen := [], inner := reader.inner.addText text }
    else some { reader with seen }
  | .tag =>
    if c = '>' then
      match reader.seen with
      | '/' :: name => endTag? name reader.inner reader.outer
      | tag => startTag? tag reader.inner reader.outer
    else if seen = "![CDATA[".toList then some { reader with place := .data, seen := [] }
    else some { reader with seen }
  | .data =>
    if c = '>' ∧ "]]".toList <:+ reader.seen then
      some { reader with
        place := .content, seen := [], inner := reader.inner.addText reader.seen.dropLast.dropLast }
    else some { reader with seen }

def run (reader : Reader) (chars : List Char) : Option Reader := chars.foldlM step reader

def root? (reader : Reader) : Option Markup :=
  match reader with
  | ⟨.content, seen, ⟨_, _, text, [root]⟩, []⟩ =>
    if (text ++ seen).all Char.isWhitespace then some root else none
  | _ => none

end Reader

def read (text : String) : Option Markup := (Reader.start.run text.toList).bind Reader.root?

theorem unescape_cons (c : Char) (rest : List Char) :
    unescape (escapeChar c ++ rest) = (unescape rest).map (c :: ·) := by
  rw [escapeChar]
  by_cases less : c = '<'
  · simp [less, unescape]
  by_cases greater : c = '>'
  · simp [greater, unescape]
  by_cases ampersand : c = '&'
  · simp [ampersand, unescape]
  by_cases apostrophe : c = '\''
  · simp [apostrophe, unescape]
  by_cases quotation : c = '"'
  · simp [quotation, unescape]
  simp [less, greater, ampersand, apostrophe, quotation, unescape]

theorem unescape_escape (chars : List Char) : unescape (escape chars) = some chars := by
  induction chars with
  | nil => rfl
  | cons c rest ih =>
      rw [escape, List.flatMap_cons, ← escape, unescape_cons, ih, Option.map_some]

theorem escape_clean (mark : Char) (special : mark ∈ ['<', '>', '"']) (chars : List Char) :
    mark ∉ escape chars := by
  have clean (c : Char) : mark ∉ escapeChar c := by
    simp only [List.mem_cons, List.not_mem_nil, or_false] at special
    rw [escapeChar]
    rcases special with rfl | rfl | rfl <;> split_ifs <;> simp_all [eq_comm]
  simpa [escape] using fun c _ => clean c

def IsName (name : String) : Prop :=
  name ≠ "" ∧ ∀ c ∈ name.toList, c ∉ [' ', '!', '"', '/', '<', '=', '>']

instance (name : String) : Decidable (IsName name) :=
  @instDecidableAnd _ _ inferInstance (List.decidableBAll _ name.toList)

theorem IsName.absent {name : String} (named : IsName name) (mark : Char)
    (special : mark ∈ [' ', '!', '"', '/', '<', '=', '>']) : mark ∉ name.toList :=
  fun member => named.2 mark member special

theorem IsName.first {name : String} (named : IsName name) :
    ∃ first rest, name.toList = first :: rest ∧
      first ∉ [' ', '!', '"', '/', '<', '=', '>'] := by
  cases chars : name.toList with
  | nil => exact absurd (String.toList_eq_nil_iff.mp chars) named.1
  | cons first rest =>
      exact ⟨first, rest, rfl, named.2 first (chars ▸ List.mem_cons_self)⟩

theorem attributes_clean (mark : Char) (special : mark ∈ ['<', '>'])
    (attributes : List (String × String)) (keys : ∀ pair ∈ attributes, IsName pair.1) :
    mark ∉ attributes.flatMap writeAttribute := by
  intro member
  obtain ⟨⟨key, value⟩, among, inside⟩ := List.mem_flatMap.mp member
  have named := keys _ among
  simp only [List.mem_cons, List.not_mem_nil, or_false] at special
  rcases special with rfl | rfl
  · have bareKey := named.absent '<' (by decide)
    have bareValue := escape_clean '<' (by decide) value.toList
    simp [writeAttribute, bareKey, bareValue] at inside
  · have bareKey := named.absent '>' (by decide)
    have bareValue := escape_clean '>' (by decide) value.toList
    simp [writeAttribute, bareKey, bareValue] at inside

theorem attributes_read (attributes : List (String × String))
    (keys : ∀ pair ∈ attributes, IsName pair.1) :
    attributes? (Text.pieces '"' (attributes.flatMap writeAttribute)) = some attributes := by
  induction attributes with
  | nil => rfl
  | cons pair rest ih =>
      obtain ⟨key, value⟩ := pair
      obtain ⟨named, later⟩ := List.forall_mem_cons.mp keys
      have written : (⟨key, value⟩ :: rest : List (String × String)).flatMap writeAttribute =
          (' ' :: (key.toList ++ ['='])) ++ '"' ::
            (escape value.toList ++ '"' :: rest.flatMap writeAttribute) := by
        simp [writeAttribute]
      have bare : '"' ∉ ' ' :: (key.toList ++ ['=']) := by
        simpa using named.absent '"' (by decide)
      rw [written, Text.pieces_first _ _ _ bare,
        Text.pieces_first _ _ _ (escape_clean '"' (by decide) value.toList), attributes?,
        Text.cut_first _ _ _ (named.absent '=' (by decide)), unescape_escape, ih later]
      simp

theorem unescape_plain (chars : List Char) (plain : '&' ∉ chars) :
    unescape chars = some chars := by
  induction chars with
  | nil => rfl
  | cons c rest ih =>
      obtain ⟨here, later⟩ := not_or.mp (mt List.mem_cons.mpr plain)
      simp [unescape, Ne.symm here, ih later]

namespace Reader

variable (seen : List Char) (inner : Pending) (outer : List Pending)

theorem run_append (reader : Reader) (before behind : List Char) :
    reader.run (before ++ behind) = (reader.run before).bind (·.run behind) :=
  List.foldlM_append

theorem run_content (chars : List Char) (bare : '<' ∉ chars) :
    run ⟨.content, seen, inner, outer⟩ chars = some ⟨.content, seen ++ chars, inner, outer⟩ := by
  induction chars generalizing seen with
  | nil => simp [run]
  | cons c rest ih =>
      obtain ⟨here, later⟩ := not_or.mp (mt List.mem_cons.mpr bare)
      have stepped : step ⟨.content, seen, inner, outer⟩ c =
          some ⟨.content, seen ++ [c], inner, outer⟩ := by simp [step, Ne.symm here]
      rw [run, List.foldlM_cons, stepped]
      simpa [run] using ih (seen ++ [c]) later

theorem run_tag (chars : List Char) (bare : '>' ∉ chars)
    (starts : (seen ++ chars).head? ≠ some '!') :
    run ⟨.tag, seen, inner, outer⟩ chars = some ⟨.tag, seen ++ chars, inner, outer⟩ := by
  induction chars generalizing seen with
  | nil => simp [run]
  | cons c rest ih =>
      obtain ⟨here, later⟩ := not_or.mp (mt List.mem_cons.mpr bare)
      rw [List.append_cons] at starts ⊢
      have other : seen ++ [c] ≠ "![CDATA[".toList := by
        intro mark
        exact starts (by rw [mark]; rfl)
      have stepped : step ⟨.tag, seen, inner, outer⟩ c =
          some ⟨.tag, seen ++ [c], inner, outer⟩ := by
        simp only [step, if_neg (Ne.symm here), if_neg other]
      rw [run, List.foldlM_cons, stepped]
      exact ih (seen ++ [c]) later starts

theorem run_data (chars : List Char) (bare : ¬ "]]>".toList <:+: seen ++ chars) :
    run ⟨.data, seen, inner, outer⟩ chars = some ⟨.data, seen ++ chars, inner, outer⟩ := by
  induction chars generalizing seen with
  | nil => simp [run]
  | cons c rest ih =>
      rw [List.append_cons] at bare ⊢
      have goesOn : ¬ (c = '>' ∧ "]]".toList <:+ seen) := by
        rintro ⟨rfl, before, rfl⟩
        exact bare ⟨before, rest, by simp⟩
      have stepped : step ⟨.data, seen, inner, outer⟩ c =
          some ⟨.data, seen ++ [c], inner, outer⟩ := by
        simp only [step, if_neg goesOn]
      rw [run, List.foldlM_cons, stepped]
      exact ih (seen ++ [c]) bare

theorem run_less (text chars : List Char) (read : unescape seen = some text) :
    run ⟨.content, seen, inner, outer⟩ ('<' :: chars) =
      run ⟨.tag, [], inner.addText text, outer⟩ chars := by
  have stepped : step ⟨.content, seen, inner, outer⟩ '<' =
      some ⟨.tag, [], inner.addText text, outer⟩ := by simp [step, read]
  rw [run, List.foldlM_cons, stepped]
  rfl

theorem run_start (name : String) (attributes : List (String × String)) (named : IsName name)
    (keys : ∀ pair ∈ attributes, IsName pair.1) (text : List Char)
    (read : unescape seen = some text) :
    run ⟨.content, seen, inner, outer⟩ (openTag name attributes) =
      some ⟨.content, [], { name, attributes }, inner.addText text :: outer⟩ := by
  obtain ⟨first, rest, chars, plain⟩ := named.first
  simp only [List.mem_cons, not_or] at plain
  have bare : '>' ∉ name.toList ++ attributes.flatMap writeAttribute := by
    simpa [named.absent '>' (by decide)] using attributes_clean '>' (by decide) attributes keys
  have apart : ∀ c ∈ name.toList, decide (c ≠ ' ') = true := fun c member => by
    simpa using fun same : c = ' ' => named.absent ' ' (by decide) (same ▸ member)
  -- The name goes up to the first blank, which only attributes bring.
  have taken : (name.toList ++ attributes.flatMap writeAttribute).takeWhile (· ≠ ' ') =
      name.toList := by
    rw [List.takeWhile_append_of_pos apart]
    cases attributes <;> simp [writeAttribute]
  have dropped : (name.toList ++ attributes.flatMap writeAttribute).dropWhile (· ≠ ' ') =
      attributes.flatMap writeAttribute := by
    rw [List.dropWhile_append_of_pos apart]
    cases attributes <;> simp [writeAttribute]
  have ended : step ⟨.tag, name.toList ++ attributes.flatMap writeAttribute,
      inner.addText text, outer⟩ '>' =
        startTag? (name.toList ++ attributes.flatMap writeAttribute) (inner.addText text) outer := by
    simp only [step, if_pos, chars, List.cons_append]
    split
    · next name same =>
        simp only [List.cons.injEq] at same
        exact absurd same.1 plain.2.2.2.1
    · rfl
  rw [openTag, List.cons_append, List.cons_append, run_less _ _ _ text _ read, run_append,
    run_tag [] _ _ _ bare (by simpa [chars] using plain.2.1), Option.bind_some, List.nil_append, run,
    List.foldlM_cons, ended, startTag?, taken, dropped, attributes_read attributes keys]
  simp

theorem run_end (name : String) (parent : Pending) (named : IsName name) (same : inner.name = name)
    (text : List Char) (read : unescape seen = some text) :
    run ⟨.content, seen, inner, parent :: outer⟩ (closeTag name) =
      some ⟨.content, [], parent.addChild (inner.addText text).close, outer⟩ := by
  have bare : '>' ∉ '/' :: name.toList := by simpa using named.absent '>' (by decide)
  have ended : step ⟨.tag, '/' :: name.toList, inner.addText text, parent :: outer⟩ '>' =
      some ⟨.content, [], parent.addChild (inner.addText text).close, outer⟩ := by
    simp [step, endTag?, Pending.addText, same]
  rw [closeTag, List.cons_append, List.cons_append, ← List.cons_append, run_less _ _ _ text _ read,
    run_append, run_tag [] _ _ _ bare (by simp), Option.bind_some, List.nil_append, run,
    List.foldlM_cons, ended]
  rfl

theorem run_verbatim (text : List Char) (whole : ¬ "]]>".toList <:+: text) :
    run ⟨.content, [], inner, outer⟩ ("<![CDATA[".toList ++ text ++ "]]>".toList) =
      some ⟨.content, [], inner.addText text, outer⟩ := by
  have opened : run ⟨.content, [], inner, outer⟩ "<![CDATA[".toList =
      some ⟨.data, [], inner, outer⟩ := by
    have blank : inner.addText [] = inner := by simp [Pending.addText]
    exact (run_less [] inner outer [] "![CDATA[".toList rfl).trans (blank.symm ▸ rfl)
  have bracket (seen : List Char) : step ⟨.data, seen, inner, outer⟩ ']' =
      some ⟨.data, seen ++ [']'], inner, outer⟩ := rfl
  have ended : step ⟨.data, text ++ [']'] ++ [']'], inner, outer⟩ '>' =
      some ⟨.content, [], inner.addText text, outer⟩ := by
    have behind : "]]".toList <:+ text ++ [']'] ++ [']'] := ⟨text, by simp⟩
    simp only [step, behind, and_self, if_true, List.dropLast_concat]
  have closed : run ⟨.data, text, inner, outer⟩ "]]>".toList =
      some ⟨.content, [], inner.addText text, outer⟩ := by
    have chars : "]]>".toList = [']', ']', '>'] := rfl
    rw [chars, run, List.foldlM_cons, bracket, Option.bind_eq_bind, Option.bind_some,
      List.foldlM_cons, bracket, Option.bind_eq_bind, Option.bind_some, List.foldlM_cons, ended]
    rfl
  rw [List.append_assoc, run_append, opened, Option.bind_some, run_append,
    run_data [] _ _ text whole, Option.bind_some, List.nil_append, closed]

end Reader

end FieldConfig.Xml
