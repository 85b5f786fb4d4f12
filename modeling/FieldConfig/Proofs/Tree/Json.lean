import FieldConfig.Proofs.Tree.Whole
import FieldConfig.Proofs.Xml.Fields
import FieldConfig.Text.Hex
import FieldConfig.Tree.Json

set_option autoImplicit false

-- A reader of JSON, character by character. It knows all values but numbers with a fraction, blanks
-- wherever JSON allows them, and every escape but those of surrogates; and it gets back from a
-- written tree the tree itself.
namespace FieldConfig.Json

-- What the value that is read stands in, with what was read there before it.
inductive Frame where
  | array (items : List Tree)
  | object (members : List (String × Tree))
  | member (members : List (String × Tree)) (key : String)

inductive Escape where
  | none
  | begun
  | unit (digits : List Char)

inductive Place where
  | value
  | key
  | colon
  | quoted (isKey : Bool) (seen : List Char) (escape : Escape)
  | word (seen : List Char)
  | behind (value : Tree)

structure Reader where
  place : Place
  frames : List Frame

def isBlank (c : Char) : Bool := c ∈ [' ', '\n', '\r', '\t']

def endsWord (c : Char) : Bool := isBlank c || c ∈ [',', ']', '}']

def word? (chars : List Char) : Option Tree :=
  if chars = "null".toList then some .null
  else if chars = "true".toList then some (.boolean true)
  else if chars = "false".toList then some (.boolean false)
  else (Xml.integer? (String.ofList chars)).map .integer

def escaped? : Char → Option Char
  | '"' => some '"'
  | '\\' => some '\\'
  | '/' => some '/'
  | 'b' => some '\x08'
  | 'f' => some '\x0c'
  | 'n' => some '\n'
  | 'r' => some '\r'
  | 't' => some '\t'
  | _ => none

namespace Reader

-- At a value: the end of an array may stand here as long as nothing is in it.
def begin (frames : List Frame) (c : Char) : Reader :=
  match c, frames with
  | '[', _ => ⟨.value, .array [] :: frames⟩
  | '{', _ => ⟨.key, .object [] :: frames⟩
  | '"', _ => ⟨.quoted false [] .none, frames⟩
  | ']', .array [] :: outer => ⟨.behind (.array []), outer⟩
  | _, _ => ⟨.word [c], frames⟩

def beginKey? (frames : List Frame) (c : Char) : Option Reader :=
  match c, frames with
  | '"', _ => some ⟨.quoted true [] .none, frames⟩
  | '}', .object [] :: outer => some ⟨.behind (.object []), outer⟩
  | _, _ => none

def follow? (value : Tree) (frames : List Frame) (c : Char) : Option Reader :=
  if isBlank c then some ⟨.behind value, frames⟩
  else
    match c, frames with
    | ',', .array items :: outer => some ⟨.value, .array (items ++ [value]) :: outer⟩
    | ']', .array items :: outer => some ⟨.behind (.array (items ++ [value])), outer⟩
    | ',', .member members key :: outer =>
      some ⟨.key, .object (members ++ [(key, value)]) :: outer⟩
    | '}', .member members key :: outer =>
      some ⟨.behind (.object (members ++ [(key, value)])), outer⟩
    | _, _ => none

def endText? (isKey : Bool) (text : String) (frames : List Frame) : Option Reader :=
  match isKey, frames with
  | false, _ => some ⟨.behind (.text text), frames⟩
  | true, .object members :: outer => some ⟨.colon, .member members text :: outer⟩
  | true, _ => none

def quote? (isKey : Bool) (seen : List Char) (escape : Escape) (frames : List Frame) (c : Char) :
    Option Reader :=
  match escape with
  | .none =>
    if c = '"' then endText? isKey (String.ofList seen) frames
    else if c = '\\' then some ⟨.quoted isKey seen .begun, frames⟩
    else if c.toNat < 32 then none
    else some ⟨.quoted isKey (seen ++ [c]) .none, frames⟩
  | .begun =>
    if c = 'u' then some ⟨.quoted isKey seen (.unit []), frames⟩
    else (escaped? c).map fun char => ⟨.quoted isKey (seen ++ [char]) .none, frames⟩
  | .unit digits =>
    if digits.length < 3 then some ⟨.quoted isKey seen (.unit (digits ++ [c])), frames⟩
    else
      ((Text.hexValue? 0 (digits ++ [c])).filter (Nat.isValidChar ·)).map fun unit =>
        ⟨.quoted isKey (seen ++ [Char.ofNat unit]) .none, frames⟩

def step (reader : Reader) (c : Char) : Option Reader :=
  match reader.place with
  | .value => some (if isBlank c then reader else begin reader.frames c)
  | .key => if isBlank c then some reader else beginKey? reader.frames c
  | .colon =>
    if isBlank c then some reader else if c = ':' then some ⟨.value, reader.frames⟩ else none
  | .quoted isKey seen escape => quote? isKey seen escape reader.frames c
  | .word seen =>
    if endsWord c then (word? seen).bind fun value => follow? value reader.frames c
    else some ⟨.word (seen ++ [c]), reader.frames⟩
  | .behind value => follow? value reader.frames c

def run (reader : Reader) (chars : List Char) : Option Reader := chars.foldlM step reader

def value? : Reader → Option (Tree × List Frame)
  | ⟨.behind value, frames⟩ => some (value, frames)
  | ⟨.word seen, frames⟩ => (word? seen).map fun value => (value, frames)
  | _ => none

end Reader

def read (text : String) : Option Tree :=
  match (Reader.run ⟨.value, []⟩ text.toList).bind Reader.value? with
  | some (tree, []) => some tree
  | _ => none

namespace Reader

theorem run_append (reader : Reader) (before behind : List Char) :
    reader.run (before ++ behind) = (reader.run before).bind (·.run behind) :=
  List.foldlM_append

theorem run_cons (reader : Reader) (c : Char) (rest : List Char) :
    reader.run (c :: rest) = (reader.step c).bind (·.run rest) :=
  List.foldlM_cons

def Rests (reader : Reader) : Prop := ∀ c, isBlank c = true → reader.step c = some reader

theorem value_rests (frames : List Frame) : Rests ⟨.value, frames⟩ :=
  fun c blank => by simp [step, blank]

theorem key_rests (frames : List Frame) : Rests ⟨.key, frames⟩ :=
  fun c blank => by simp [step, blank]

theorem behind_rests (value : Tree) (frames : List Frame) : Rests ⟨.behind value, frames⟩ :=
  fun c blank => by simp [step, follow?, blank]

theorem run_line (reader : Reader) (rests : Rests reader) (depth : Nat) :
    reader.run (Tree.jsonLine depth) = some reader := by
  have blanks (count : Nat) : reader.run (List.replicate count ' ') = some reader := by
    induction count with
    | zero => rfl
    | succ count ih => rw [List.replicate_succ, run_cons, rests ' ' rfl, Option.bind_some, ih]
  rw [Tree.jsonLine, run_cons, rests '\n' rfl, Option.bind_some, blanks]

-- A number ends only with the character behind it.
theorem step_behind (reader : Reader) (value : Tree) (frames : List Frame)
    (ended : reader.value? = some (value, frames)) (c : Char) (ends : endsWord c = true) :
    reader.step c = follow? value frames c := by
  obtain ⟨place, around⟩ := reader
  cases place with
  | behind last => cases ended; rfl
  | word seen =>
      obtain ⟨last, read, same⟩ := Option.map_eq_some_iff.mp ended
      cases same
      simp [step, ends, read]
  | value | key | colon | quoted _ _ _ => cases ended

theorem line_behind (reader : Reader) (value : Tree) (frames : List Frame)
    (ended : reader.value? = some (value, frames)) (depth : Nat) :
    reader.run (Tree.jsonLine depth) = some ⟨.behind value, frames⟩ := by
  have rests := run_line ⟨.behind value, frames⟩ (behind_rests value frames) depth
  rw [Tree.jsonLine, run_cons] at rests ⊢
  rw [reader.step_behind value frames ended '\n' rfl]
  exact rests

theorem control_read (n : Nat) (control : n < 32) :
    ∃ a b c d, Tree.hexDigits4 n = [a, b, c, d] ∧
      (Text.hexValue? 0 [a, b, c, d]).filter (Nat.isValidChar ·) = some n := by
  have all : ∀ n < 32, (Text.hexValue? 0 (Tree.hexDigits4 n)).filter (Nat.isValidChar ·) = some n ∧
      (Tree.hexDigits4 n).length = 4 := by decide
  obtain ⟨value, length⟩ := all n control
  match digits : Tree.hexDigits4 n, length with
  | [a, b, c, d], _ => exact ⟨a, b, c, d, rfl, digits ▸ value⟩

theorem char_read (isKey : Bool) (seen : List Char) (frames : List Frame) (c : Char) :
    run ⟨.quoted isKey seen .none, frames⟩ (Tree.jsonChar c) =
      some ⟨.quoted isKey (seen ++ [c]) .none, frames⟩ := by
  rw [Tree.jsonChar]
  split_ifs with quotation backslash backspace feed line return_ tab control
  · rw [quotation]; rfl
  · rw [backslash]; rfl
  · rw [backspace]; rfl
  · rw [feed]; rfl
  · rw [line]; rfl
  · rw [return_]; rfl
  · rw [tab]; rfl
  · obtain ⟨a, b, d, e, digits, value⟩ := control_read c.toNat control
    have ended : run ⟨.quoted isKey seen .none, frames⟩ (['\\', 'u'] ++ [a, b, d, e]) =
        ((Text.hexValue? 0 [a, b, d, e]).filter (Nat.isValidChar ·)).map fun unit =>
          ⟨.quoted isKey (seen ++ [Char.ofNat unit]) .none, frames⟩ :=
      bind_pure (((Text.hexValue? 0 [a, b, d, e]).filter (Nat.isValidChar ·)).map fun unit =>
        (⟨.quoted isKey (seen ++ [Char.ofNat unit]) .none, frames⟩ : Reader))
    rw [digits, ended, value, Option.map_some, Char.ofNat_toNat]
  · simp [run, step, quote?, quotation, backslash, control]

theorem chars_read (isKey : Bool) (seen : List Char) (frames : List Frame) (chars : List Char) :
    run ⟨.quoted isKey seen .none, frames⟩ (chars.flatMap Tree.jsonChar) =
      some ⟨.quoted isKey (seen ++ chars) .none, frames⟩ := by
  induction chars generalizing seen with
  | nil => simp [run]
  | cons c rest ih =>
      rw [List.flatMap_cons, run_append, char_read, Option.bind_some, ih, List.append_assoc]
      rfl

theorem text_read (isKey : Bool) (frames : List Frame) (text : String) :
    run ⟨.quoted isKey [] .none, frames⟩ (text.toList.flatMap Tree.jsonChar ++ ['"']) =
      endText? isKey text frames := by
  have ended : run ⟨.quoted isKey text.toList .none, frames⟩ ['"'] = endText? isKey text frames := by
    rw [← String.ofList_toList (s := text), String.toList_ofList]
    exact bind_pure _
  rw [run_append, chars_read, Option.bind_some, List.nil_append, ended]

theorem run_word (seen chars : List Char) (frames : List Frame)
    (inside : ∀ c ∈ chars, endsWord c = false) :
    run ⟨.word seen, frames⟩ chars = some ⟨.word (seen ++ chars), frames⟩ := by
  induction chars generalizing seen with
  | nil => simp [run]
  | cons c rest ih =>
      obtain ⟨here, later⟩ := List.forall_mem_cons.mp inside
      have stepped : step ⟨.word seen, frames⟩ c = some ⟨.word (seen ++ [c]), frames⟩ := by
        simp [step, here]
      rw [run_cons, stepped, Option.bind_some, ih _ later, List.append_assoc]
      rfl

def isPlain (c : Char) : Bool := c ∉ [' ', '\n', '\r', '\t', ',', ']', '}', '[', '{', '"']

theorem plain_inside (c : Char) (plain : isPlain c = true) : endsWord c = false := by
  simp_all [isPlain, endsWord, isBlank]

theorem digit_plain (c : Char) (digit : c = '-' ∨ c.isDigit = true) : isPlain c = true := by
  have marks : [' ', '\n', '\r', '\t', ',', ']', '}', '[', '{', '"'].all
      (fun mark => mark != '-' && !mark.isDigit) = true := by decide
  rw [isPlain, decide_eq_true_iff]
  intro mark
  have apart := List.all_eq_true.mp marks c mark
  rw [Bool.and_eq_true, bne_iff_ne, Bool.not_eq_true'] at apart
  obtain minus | digit := digit
  · exact apart.1 minus
  · exact Bool.false_ne_true (apart.2.symm.trans digit)

theorem word_read (chars : List Char) (written : chars ≠ []) (plain : ∀ c ∈ chars, isPlain c = true)
    (frames : List Frame) :
    run ⟨.value, frames⟩ chars = some ⟨.word chars, frames⟩ := by
  have inside : ∀ c ∈ chars, endsWord c = false := fun c member => plain_inside c (plain c member)
  cases chars with
  | nil => exact absurd rfl written
  | cons first rest =>
      have apart := plain first List.mem_cons_self
      have began : begin frames first = ⟨.word [first], frames⟩ := by
        unfold begin
        split
        · exact absurd apart (by decide)
        · exact absurd apart (by decide)
        · exact absurd apart (by decide)
        · exact absurd apart (by decide)
        · rfl
      have visible : isBlank first = false := by
        have ends := inside first List.mem_cons_self
        rw [endsWord, Bool.or_eq_false_iff] at ends
        exact ends.1
      have stepped : step ⟨.value, frames⟩ first = some ⟨.word [first], frames⟩ := by
        simp [step, visible, began]
      rw [run_cons, stepped, Option.bind_some,
        run_word _ _ _ (List.forall_mem_cons.mp inside).2]
      rfl

end Reader

open Reader (run_append run_cons)

def Reads (tree : Tree) : Prop :=
  ∀ depth frames, ∃ last, Reader.run ⟨.value, frames⟩ (tree.pretty depth) = some last ∧
    last.value? = some (tree, frames)

theorem items_read (items : List Tree) (nonempty : items ≠ []) (reads : ∀ item ∈ items, Reads item)
    (depth : Nat) (done : List Tree) (outer : List Frame) :
    ∃ last before value, Reader.run ⟨.value, .array done :: outer⟩ (Tree.prettyItems depth items) =
        some last ∧ last.value? = some (value, .array before :: outer) ∧
      before ++ [value] = done ++ items := by
  induction items generalizing done with
  | nil => exact absurd rfl nonempty
  | cons item rest ih =>
      obtain ⟨here, later⟩ := List.forall_mem_cons.mp reads
      obtain ⟨last, ran, ended⟩ := here depth (.array done :: outer)
      have line := Reader.run_line _ (Reader.value_rests (.array done :: outer)) depth
      cases rest with
      | nil =>
          refine ⟨last, done, item, ?_, ended, rfl⟩
          rw [Tree.prettyItems, run_append, line, Option.bind_some, ran]
      | cons next rest =>
          obtain ⟨final, before, value, finished, closes, whole⟩ :=
            ih (List.cons_ne_nil _ _) later (done ++ [item])
          have comma := last.step_behind item (.array done :: outer) ended ',' rfl
          refine ⟨final, before, value, ?_, closes, by rw [whole, List.append_assoc]; rfl⟩
          rw [Tree.prettyItems, run_append, run_append, line, Option.bind_some, ran,
            Option.bind_some, run_cons, comma]
          · exact finished
          · exact List.cons_ne_nil _ _

theorem member_read (key : String) (value : Tree) (reads : Reads value) (depth : Nat)
    (done : List (String × Tree)) (outer : List Frame) :
    ∃ last, Reader.run ⟨.key, .object done :: outer⟩
        (Tree.jsonLine depth ++ Tree.jsonText key ++ ':' :: ' ' :: value.pretty depth) = some last ∧
      last.value? = some (value, .member done key :: outer) := by
  obtain ⟨last, ran, ended⟩ := reads depth (.member done key :: outer)
  have line := Reader.run_line _ (Reader.key_rests (.object done :: outer)) depth
  have named : Reader.run ⟨.key, .object done :: outer⟩ (Tree.jsonText key) =
      some ⟨.colon, .member done key :: outer⟩ :=
    Reader.text_read true (.object done :: outer) key
  have colon : Reader.run ⟨.colon, .member done key :: outer⟩ (':' :: ' ' :: value.pretty depth) =
      Reader.run ⟨.value, .member done key :: outer⟩ (value.pretty depth) := rfl
  refine ⟨last, ?_, ended⟩
  rw [run_append, run_append, line, Option.bind_some, named, Option.bind_some, colon, ran]

theorem members_read (members : List (String × Tree)) (nonempty : members ≠ [])
    (reads : ∀ member ∈ members, Reads member.2) (depth : Nat) (done : List (String × Tree))
    (outer : List Frame) :
    ∃ last before key value,
      Reader.run ⟨.key, .object done :: outer⟩ (Tree.prettyMembers depth members) = some last ∧
        last.value? = some (value, .member before key :: outer) ∧
        before ++ [(key, value)] = done ++ members := by
  induction members generalizing done with
  | nil => exact absurd rfl nonempty
  | cons member rest ih =>
      obtain ⟨key, value⟩ := member
      obtain ⟨here, later⟩ := List.forall_mem_cons.mp reads
      obtain ⟨last, ran, ended⟩ := member_read key value here depth done outer
      cases rest with
      | nil => exact ⟨last, done, key, value, ran, ended, rfl⟩
      | cons next rest =>
          obtain ⟨final, before, lastKey, lastValue, finished, closes, whole⟩ :=
            ih (List.cons_ne_nil _ _) later (done ++ [(key, value)])
          have comma := last.step_behind value (.member done key :: outer) ended ',' rfl
          refine ⟨final, before, lastKey, lastValue, ?_, closes,
            by rw [whole, List.append_assoc]; rfl⟩
          have written : Tree.prettyMembers depth ((key, value) :: next :: rest) =
              (Tree.jsonLine depth ++ Tree.jsonText key ++ ':' :: ' ' :: value.pretty depth) ++
                ',' :: Tree.prettyMembers depth (next :: rest) := by
            simp [Tree.prettyMembers]
          rw [written, run_append, ran, Option.bind_some, run_cons, comma]
          exact finished

theorem array_reads (items : List Tree) (reads : ∀ item ∈ items, Reads item) :
    Reads (.array items) := by
  intro depth frames
  cases items with
  | nil => exact ⟨⟨.behind (.array []), frames⟩, rfl, rfl⟩
  | cons item rest =>
      obtain ⟨last, before, value, ran, ended, whole⟩ :=
        items_read (item :: rest) (List.cons_ne_nil _ _) reads (depth + 1) [] frames
      have written : (Tree.array (item :: rest)).pretty depth =
          '[' :: (Tree.prettyItems (depth + 1) (item :: rest) ++ (Tree.jsonLine depth ++ [']'])) := by
        simp [Tree.pretty]
      have began : Reader.step ⟨.value, frames⟩ '[' = some ⟨.value, .array [] :: frames⟩ := rfl
      have closed : Reader.run ⟨.behind value, .array before :: frames⟩ [']'] =
          some ⟨.behind (.array (before ++ [value])), frames⟩ := rfl
      rw [whole] at closed
      refine ⟨⟨.behind (.array (item :: rest)), frames⟩, ?_, rfl⟩
      rw [written, run_cons, began, Option.bind_some, run_append, ran, Option.bind_some, run_append,
        last.line_behind value _ ended, Option.bind_some, closed]
      rfl

theorem object_reads (members : List (String × Tree)) (reads : ∀ member ∈ members, Reads member.2) :
    Reads (.object members) := by
  intro depth frames
  cases members with
  | nil => exact ⟨⟨.behind (.object []), frames⟩, rfl, rfl⟩
  | cons member rest =>
      obtain ⟨last, before, key, value, ran, ended, whole⟩ :=
        members_read (member :: rest) (List.cons_ne_nil _ _) reads (depth + 1) [] frames
      have written : (Tree.object (member :: rest)).pretty depth =
          '{' :: (Tree.prettyMembers (depth + 1) (member :: rest) ++
            (Tree.jsonLine depth ++ ['}'])) := by
        simp [Tree.pretty]
      have began : Reader.step ⟨.value, frames⟩ '{' = some ⟨.key, .object [] :: frames⟩ := rfl
      have closed : Reader.run ⟨.behind value, .member before key :: frames⟩ ['}'] =
          some ⟨.behind (.object (before ++ [(key, value)])), frames⟩ := rfl
      rw [whole] at closed
      refine ⟨⟨.behind (.object (member :: rest)), frames⟩, ?_, rfl⟩
      rw [written, run_cons, began, Option.bind_some, run_append, ran, Option.bind_some, run_append,
        last.line_behind value _ ended, Option.bind_some, closed]
      rfl

theorem integer_chars (n : Int) : ∀ c ∈ Tree.jsonInteger n, c = '-' ∨ c.isDigit = true := by
  have digits : ∀ c ∈ Nat.toDigits 10 n.natAbs, c.isDigit = true := fun c member =>
    Nat.isDigit_of_mem_toDigits (by decide) (by decide) member
  rw [Tree.jsonInteger]
  split
  · exact List.forall_mem_cons.mpr ⟨.inl rfl, fun c member => .inr (digits c member)⟩
  · exact fun c member => .inr (digits c member)

theorem integer_reads (n : Int) : Reads (.integer n) := by
  intro depth frames
  have written : Tree.jsonInteger n ≠ [] := by
    rw [Tree.jsonInteger]
    split
    · exact List.cons_ne_nil _ _
    · exact Nat.toDigits_ne_nil
  have digits := integer_chars n
  have plain : ∀ c ∈ Tree.jsonInteger n, Reader.isPlain c = true :=
    fun c member => Reader.digit_plain c (digits c member)
  have apart (word : List Char) (letter : ∃ c ∈ word, c ≠ '-' ∧ c.isDigit = false) :
      Tree.jsonInteger n ≠ word := by
    rintro rfl
    obtain ⟨c, member, sign, letter⟩ := letter
    obtain minus | digit := digits c member
    · exact sign minus
    · exact Bool.false_ne_true (letter.symm.trans digit)
  have read : word? (Tree.jsonInteger n) = some (.integer n) := by
    rw [word?, if_neg (apart _ ⟨'n', by decide⟩), if_neg (apart _ ⟨'t', by decide⟩),
      if_neg (apart _ ⟨'f', by decide⟩), Xml.integer_read, Option.map_some]
  exact ⟨_, Reader.word_read _ written plain frames, by rw [Reader.value?, read, Option.map_some]⟩

theorem whole_reads (tree : Tree) (whole : Tree.All Tree.isWhole tree) : Reads tree := by
  induction whole with
  | node tree here inside ih =>
      cases tree with
      | null => exact fun depth frames => ⟨⟨.word "null".toList, frames⟩, rfl, rfl⟩
      | boolean value =>
          cases value with
          | true => exact fun depth frames => ⟨⟨.word "true".toList, frames⟩, rfl, rfl⟩
          | false => exact fun depth frames => ⟨⟨.word "false".toList, frames⟩, rfl, rfl⟩
      | integer n => exact integer_reads n
      | real value => cases here
      | text text => exact fun depth frames => ⟨_, Reader.text_read false frames text, rfl⟩
      | array items => exact array_reads items ih
      | object members => exact object_reads members (List.forall_mem_map.mp ih)

theorem read_json (tree : Tree) (whole : Tree.All Tree.isWhole tree) :
    read tree.toJson = some tree := by
  obtain ⟨last, ran, ended⟩ := whole_reads tree whole 0 []
  rw [read, Tree.toJson, String.toList_ofList, ran, Option.bind_some, ended]

end FieldConfig.Json
