import FieldConfig.Proofs.Tree.Whole
import FieldConfig.Tree.Cbor
import Mathlib.Tactic.Ring

set_option autoImplicit false

-- A reader of CBOR, byte by byte. It knows all items of given length but byte strings, tags and
-- floating-point numbers, and gets back from a written tree the tree itself.
namespace FieldConfig.Cbor

-- What the item that is read stands in: how many more are to come there, and what was read before.
inductive Frame where
  | array (left : Nat) (items : List Tree)
  | object (left : Nat) (members : List (String × Tree))
  | member (left : Nat) (members : List (String × Tree)) (key : String)

inductive Place where
  | head
  | argument (major left value : Nat)
  | text (left : Nat) (seen : List UInt8)
  | ended (value : Tree)

structure Reader where
  place : Place
  frames : List Frame

def simple? : Nat → Option Tree
  | 20 => some (.boolean false)
  | 21 => some (.boolean true)
  | 22 => some .null
  | _ => none

namespace Reader

-- The last item of an array or an object ends what it stands in.
def deliver? (value : Tree) : List Frame → Option Reader
  | [] => some ⟨.ended value, []⟩
  | .array 0 items :: outer => deliver? (.array (items ++ [value])) outer
  | .array (left + 1) items :: outer => some ⟨.head, .array left (items ++ [value]) :: outer⟩
  | .object left members :: outer =>
    match value with
    | .text key => some ⟨.head, .member left members key :: outer⟩
    | _ => none
  | .member 0 members key :: outer => deliver? (.object (members ++ [(key, value)])) outer
  | .member (left + 1) members key :: outer =>
    some ⟨.head, .object left (members ++ [(key, value)]) :: outer⟩

def begin? (frames : List Frame) (major argument : Nat) : Option Reader :=
  match major, argument with
  | 0, n => deliver? (.integer n) frames
  | 1, n => deliver? (.integer (-1 - n)) frames
  | 3, 0 => deliver? (.text "") frames
  | 3, n + 1 => some ⟨.text n [], frames⟩
  | 4, 0 => deliver? (.array []) frames
  | 4, n + 1 => some ⟨.head, .array n [] :: frames⟩
  | 5, 0 => deliver? (.object []) frames
  | 5, n + 1 => some ⟨.head, .object n [] :: frames⟩
  | _, _ => none

def head? (frames : List Frame) (major low : Nat) : Option Reader :=
  if major = 7 then (simple? low).bind fun value => deliver? value frames
  else if low < 24 then begin? frames major low
  else if low < 28 then some ⟨.argument major (Nat.pow 2 (low - 24) - 1) 0, frames⟩
  else none

def step (reader : Reader) (byte : UInt8) : Option Reader :=
  match reader.place with
  | .head => head? reader.frames (byte.toNat / 32) (byte.toNat % 32)
  | .argument major 0 value => begin? reader.frames major (value * 256 + byte.toNat)
  | .argument major (left + 1) value =>
    some ⟨.argument major left (value * 256 + byte.toNat), reader.frames⟩
  | .text 0 seen =>
    (String.fromUTF8? (seen ++ [byte]).toByteArray).bind fun text =>
      deliver? (.text text) reader.frames
  | .text (left + 1) seen => some ⟨.text left (seen ++ [byte]), reader.frames⟩
  | .ended _ => none

def run (reader : Reader) (bytes : List UInt8) : Option Reader := bytes.foldlM step reader

end Reader

def read (bytes : List UInt8) : Option Tree :=
  match Reader.run ⟨.head, []⟩ bytes with
  | some ⟨.ended tree, _⟩ => some tree
  | _ => none

end FieldConfig.Cbor

namespace FieldConfig.Tree

-- Its numbers and lengths are those of 64 bits, as they are in memory; a head of CBOR has room for no
-- more.
def isSized : Tree → Bool
  | .integer value => -0x10000000000000000 ≤ value && value < 0x10000000000000000
  | .text value => value.utf8ByteSize < 0x10000000000000000
  | .array items => items.length < 0x10000000000000000
  | .object members =>
    members.length < 0x10000000000000000 &&
      members.all fun (key, _) => key.utf8ByteSize < 0x10000000000000000
  | _ => true

end FieldConfig.Tree

namespace FieldConfig.Cbor

open FieldConfig.Tree (bigEndian cborHead cborText)

namespace Reader

theorem run_append (reader : Reader) (before behind : List UInt8) :
    reader.run (before ++ behind) = (reader.run before).bind (·.run behind) :=
  List.foldlM_append

theorem run_cons (reader : Reader) (byte : UInt8) (rest : List UInt8) :
    reader.run (byte :: rest) = (reader.step byte).bind (·.run rest) :=
  List.foldlM_cons

theorem run_last (reader : Reader) (byte : UInt8) : reader.run [byte] = reader.step byte :=
  bind_pure _

theorem argument_run (frames : List Frame) (major count left value n : Nat) :
    run ⟨.argument major (count + left) value, frames⟩ (bigEndian count n) =
      some ⟨.argument major left (value * 256 ^ count + n % 256 ^ count), frames⟩ := by
  induction count generalizing left n with
  | zero => simp [bigEndian, run, Nat.mod_one]
  | succ count ih =>
      have reads : value * 256 ^ (count + 1) + n % 256 ^ (count + 1) =
          (value * 256 ^ count + n / 256 % 256 ^ count) * 256 + n % 256 := by
        rw [Nat.pow_succ, Nat.mul_comm (256 ^ count) 256, Nat.mod_mul]
        ring
      have further : count + 1 + left = count + (left + 1) := by omega
      rw [bigEndian, run_append, further, ih (left + 1) (n / 256), Option.bind_some, run_last, reads]
      simp [step]

theorem argument_read (frames : List Frame) (major count n : Nat) (fits : n < 256 ^ (count + 1)) :
    run ⟨.argument major count 0, frames⟩ (bigEndian (count + 1) n) = begin? frames major n := by
  have first := argument_run frames major count 0 0 (n / 256)
  have whole : n / 256 % 256 ^ count * 256 + n % 256 = n := by
    have small : n / 256 < 256 ^ count := Nat.div_lt_of_lt_mul (by rwa [← Nat.pow_succ'])
    rw [Nat.mod_eq_of_lt small]
    omega
  rw [Nat.zero_mul, Nat.zero_add, Nat.add_zero] at first
  rw [bigEndian, run_append, first, Option.bind_some, run_last]
  simp [step, whole]

theorem first_read (frames : List Frame) (major low : Nat) (few : major < 7) (small : low < 32)
    (rest : List UInt8) :
    run ⟨.head, frames⟩ (UInt8.ofNat (major * 32 + low) :: rest) =
      (head? frames major low).bind (·.run rest) := by
  have byte : (UInt8.ofNat (major * 32 + low)).toNat = major * 32 + low := by
    rw [UInt8.toNat_ofNat']
    omega
  have parts : (major * 32 + low) / 32 = major ∧ (major * 32 + low) % 32 = low := by omega
  rw [run_cons, step, byte, parts.1, parts.2]

theorem head_read (frames : List Frame) (major n : Nat) (few : major < 7)
    (fits : n < 0x10000000000000000) :
    run ⟨.head, frames⟩ (cborHead major n) = begin? frames major n := by
  have longer (count low : Nat) (place : low ∈ [24, 25, 26, 27])
      (bytes : Nat.pow 2 (low - 24) = count + 1) (short : n < 256 ^ (count + 1)) :
      run ⟨.head, frames⟩ (UInt8.ofNat (major * 32 + low) :: bigEndian (count + 1) n) =
        begin? frames major n := by
    have bounds : 24 ≤ low ∧ low < 28 := by
      simp only [List.mem_cons, List.not_mem_nil, or_false] at place
      omega
    rw [first_read frames major low few (by omega), head?, if_neg (by omega), if_neg (by omega),
      if_pos bounds.2, bytes, Option.bind_some, Nat.add_sub_cancel]
    exact argument_read frames major count n short
  rw [cborHead]
  split_ifs with direct one two four
  · rw [first_read frames major n few (by omega), head?, if_neg (by omega), if_pos direct]
    exact Option.bind_fun_some _
  · exact longer 0 24 (by decide) rfl one
  · exact longer 1 25 (by decide) rfl two
  · exact longer 3 26 (by decide) rfl four
  · exact longer 7 27 (by decide) rfl fits

theorem text_run (frames : List Frame) (seen : List UInt8) (first : UInt8) (rest : List UInt8) :
    run ⟨.text rest.length seen, frames⟩ (first :: rest) =
      (String.fromUTF8? (seen ++ first :: rest).toByteArray).bind fun text =>
        deliver? (.text text) frames := by
  induction rest generalizing seen first with
  | nil => exact bind_pure _
  | cons next rest ih =>
      have stepped : step ⟨.text (next :: rest).length seen, frames⟩ first =
          some ⟨.text rest.length (seen ++ [first]), frames⟩ := rfl
      rw [run_cons, stepped, Option.bind_some, ih, List.append_assoc]
      rfl

theorem list_loop (bytes : ByteArray) (i : Nat) (taken : List UInt8) :
    ByteArray.toList.loop bytes i taken = taken.reverse ++ bytes.data.toList.drop i := by
  induction i, taken using ByteArray.toList.loop.induct bytes with
  | case1 i taken inside ih =>
      have next : i < bytes.data.toList.length := inside
      have byte : bytes.get! i = bytes.data.toList[i] := getElem!_pos bytes.data i inside
      rw [ByteArray.toList.loop, if_pos inside, ih, List.drop_eq_getElem_cons next, byte,
        List.reverse_cons, List.append_assoc]
      rfl
  | case2 i taken outside =>
      have beyond : bytes.data.toList.length ≤ i := Nat.le_of_not_lt outside
      rw [ByteArray.toList.loop, if_neg outside, List.drop_eq_nil_of_le beyond, List.append_nil]

theorem list_data (bytes : ByteArray) : bytes.toList = bytes.data.toList := by
  rw [ByteArray.toList, list_loop, List.reverse_nil, List.nil_append, List.drop_zero]

theorem decoded_text (text : String) :
    String.fromUTF8? text.toUTF8.toList.toByteArray = some text := by
  have same : text.toUTF8.toList.toByteArray = text.toUTF8 := by
    rw [list_data]
    exact ByteArray.ext (by rw [List.data_toByteArray, Array.toArray_toList])
  rw [same, String.fromUTF8?, String.toUTF8_eq_toByteArray, dif_pos text.isValidUTF8]
  rfl

theorem text_read (frames : List Frame) (text : String) (short : text.utf8ByteSize < 0x10000000000000000) :
    run ⟨.head, frames⟩ (cborText text) = deliver? (.text text) frames := by
  have decoded := decoded_text text
  have length : text.toUTF8.toList.length = text.utf8ByteSize := by
    rw [list_data]
    rfl
  rw [cborText, length, run_append, head_read frames 3 _ (by decide) short, ← length]
  cases bytes : text.toUTF8.toList with
  | nil =>
      rw [bytes, List.length_nil] at length
      rw [String.utf8ByteSize_eq_zero_iff.mp length.symm]
      exact Option.bind_fun_some _
  | cons first rest =>
      rw [bytes] at decoded
      have begun : begin? frames 3 (first :: rest).length = some ⟨.text rest.length [], frames⟩ := rfl
      rw [begun, Option.bind_some, text_run, List.nil_append, decoded, Option.bind_some]

end Reader

open Reader (run_append deliver?)

def Reads (tree : Tree) : Prop :=
  ∀ frames, Reader.run ⟨.head, frames⟩ tree.cbor = deliver? tree frames

theorem items_read (item : Tree) (rest : List Tree) (reads : ∀ other ∈ item :: rest, Reads other)
    (done : List Tree) (outer : List Frame) :
    Reader.run ⟨.head, .array rest.length done :: outer⟩ (Tree.cborItems (item :: rest)) =
      deliver? (.array (done ++ item :: rest)) outer := by
  induction rest generalizing item done with
  | nil =>
      rw [Tree.cborItems, run_append, reads item List.mem_cons_self]
      exact Option.bind_fun_some _
  | cons next rest ih =>
      rw [Tree.cborItems, run_append, reads item List.mem_cons_self, List.append_cons]
      exact ih next (List.forall_mem_cons.mp reads).2 (done ++ [item])

theorem member_read (key : String) (value : Tree) (reads : Reads value)
    (short : key.utf8ByteSize < 0x10000000000000000) (left : Nat) (done : List (String × Tree))
    (outer : List Frame) :
    Reader.run ⟨.head, .object left done :: outer⟩ (cborText key ++ value.cbor) =
      deliver? value (.member left done key :: outer) := by
  rw [run_append, Reader.text_read _ key short]
  exact reads (.member left done key :: outer)

theorem members_read (member : String × Tree) (rest : List (String × Tree))
    (reads : ∀ other ∈ member :: rest, Reads other.2)
    (short : ∀ other ∈ member :: rest, other.1.utf8ByteSize < 0x10000000000000000)
    (done : List (String × Tree)) (outer : List Frame) :
    Reader.run ⟨.head, .object rest.length done :: outer⟩ (Tree.cborMembers (member :: rest)) =
      deliver? (.object (done ++ member :: rest)) outer := by
  induction rest generalizing member done with
  | nil =>
      rw [Tree.cborMembers, run_append,
        member_read _ _ (reads _ List.mem_cons_self) (short _ List.mem_cons_self)]
      exact Option.bind_fun_some _
  | cons next rest ih =>
      rw [Tree.cborMembers, run_append,
        member_read _ _ (reads _ List.mem_cons_self) (short _ List.mem_cons_self), List.append_cons]
      exact ih next (List.forall_mem_cons.mp reads).2 (List.forall_mem_cons.mp short).2
        (done ++ [member])

theorem integer_reads (value : Int) (fits : Tree.isSized (.integer value) = true) :
    Reads (.integer value) := by
  intro frames
  simp only [Tree.isSized, Bool.and_eq_true, decide_eq_true_eq] at fits
  rw [Tree.cbor]
  split
  · have same : -1 - ((value.natAbs - 1 : Nat) : Int) = value := by omega
    rw [Reader.head_read frames 1 _ (by decide) (by omega), Reader.begin?, same]
  · have same : (value.natAbs : Int) = value := by omega
    rw [Reader.head_read frames 0 _ (by decide) (by omega), Reader.begin?, same]

theorem array_reads (items : List Tree) (fits : Tree.isSized (.array items) = true)
    (reads : ∀ item ∈ items, Reads item) : Reads (.array items) := by
  intro frames
  rw [Tree.cbor, run_append, Reader.head_read frames 4 _ (by decide) (of_decide_eq_true fits)]
  cases items with
  | nil => exact Option.bind_fun_some _
  | cons item rest => exact items_read item rest reads [] frames

theorem object_reads (members : List (String × Tree)) (fits : Tree.isSized (.object members) = true)
    (reads : ∀ member ∈ members, Reads member.2) : Reads (.object members) := by
  intro frames
  simp only [Tree.isSized, Bool.and_eq_true, decide_eq_true_eq, List.all_eq_true] at fits
  rw [Tree.cbor, run_append, Reader.head_read frames 5 _ (by decide) fits.1]
  cases members with
  | nil => exact Option.bind_fun_some _
  | cons member rest => exact members_read member rest reads fits.2 [] frames

theorem sized_reads (tree : Tree) (whole : Tree.All Tree.isWhole tree)
    (sized : Tree.All Tree.isSized tree) : Reads tree := by
  induction whole with
  | node tree here inside ih =>
      obtain ⟨fits, parts⟩ := (Tree.all_iff _ tree).mp sized
      have reads : ∀ child ∈ tree.children, Reads child :=
        fun child member => ih child member (parts child member)
      cases tree with
      | null => exact fun frames => Reader.run_last _ _
      | boolean value =>
          cases value with
          | true => exact fun frames => Reader.run_last _ _
          | false => exact fun frames => Reader.run_last _ _
      | integer value => exact integer_reads value fits
      | real value => cases here
      | text text => exact fun frames => Reader.text_read frames text (of_decide_eq_true fits)
      | array items => exact array_reads items fits reads
      | object members => exact object_reads members fits (List.forall_mem_map.mp reads)

theorem read_cbor (tree : Tree) (whole : Tree.All Tree.isWhole tree)
    (sized : Tree.All Tree.isSized tree) : read tree.cbor = some tree := by
  rw [read, sized_reads tree whole sized []]
  rfl

end FieldConfig.Cbor
