import Mathlib.Algebra.GroupWithZero.Nat
import Mathlib.Algebra.Order.BigOperators.Group.List
import Mathlib.Algebra.Order.Group.Nat
import Mathlib.Data.List.Basic

/-!
# Compact JSON

What a serializer writes for a value, without any white space: numbers in
decimal, strings with their escapes, and the members of an object in order.
The lemmas bound the number of bytes that are written, from the bytes of the
names and of the values.
-/

namespace Iperf.Serde

/-- A value as a serializer is given it. -/
inductive Value where
  | null
  | bool (value : Bool)
  | number (value : Nat)
  | string (text : String)
  /-- A struct or a map, with its members in the order they are written. -/
  | object (members : List (String × Value))

/-- A value that may be missing. -/
def Value.optional : Option Nat → Value
  | none => .null
  | some value => .number value

/-- A variant that carries a value is an object with one member. -/
def Value.variant (name : String) (value : Value) : Value :=
  .object [(name, value)]

def bytes (text : String) : List UInt8 :=
  text.toUTF8.data.toList

/-- Half a byte as a lower case digit. -/
def hexDigit (half : UInt8) : UInt8 :=
  if half < 10 then 48 + half else 87 + half

/-- A byte of a string as it stands between quotes. -/
def escape (byte : UInt8) : List UInt8 :=
  if byte = 34 ∨ byte = 92 then [92, byte]
  else if 32 ≤ byte then [byte]
  else if byte = 8 then bytes "\\b"
  else if byte = 9 then bytes "\\t"
  else if byte = 10 then bytes "\\n"
  else if byte = 12 then bytes "\\f"
  else if byte = 13 then bytes "\\r"
  else bytes "\\u00" ++ [hexDigit (byte / 16), hexDigit (byte % 16)]

def quoted (text : String) : List UInt8 :=
  bytes "\"" ++ (bytes text).flatMap escape ++ bytes "\""

mutual

/-- The bytes written for a value. -/
def Value.write : Value → List UInt8
  | .null => bytes "null"
  | .bool true => bytes "true"
  | .bool false => bytes "false"
  | .number value => bytes (toString value)
  | .string text => quoted text
  | .object [] => bytes "\x7b\x7d"
  | .object (member :: rest) =>
      bytes "\x7b" ++ writeMember member ++ writeRest rest ++ bytes "\x7d"

/-- The members behind the first one. -/
def writeRest : List (String × Value) → List UInt8
  | [] => []
  | member :: rest => bytes "," ++ writeMember member ++ writeRest rest

def writeMember : String × Value → List UInt8
  | (name, value) => quoted name ++ bytes ":" ++ value.write

end

/-! ## Strings and numbers -/

theorem length_bytes (text : String) : (bytes text).length = text.utf8ByteSize := by
  rw [bytes, Array.length_toList]
  rfl

/-- A byte that needs no escape. -/
theorem escape_of_plain {byte : UInt8} (printable : 32 ≤ byte) (quote : byte ≠ 34)
    (backslash : byte ≠ 92) : escape byte = [byte] := by
  simp only [escape, quote, backslash, or_self, printable, if_false, if_true]

theorem length_escape_le (byte : UInt8) : (escape byte).length ≤ 6 := by
  unfold escape
  repeat' split
  all_goals exact Nat.le_of_ble_eq_true rfl

theorem length_quoted (text : String) :
    (quoted text).length = ((bytes text).flatMap escape).length + 2 := by
  simp only [quoted, List.length_append]
  rw [show (bytes "\"").length = 1 from rfl]
  omega

/-- No text grows to more than six times its size. -/
theorem length_quoted_le (text : String) :
    (quoted text).length ≤ 6 * text.utf8ByteSize + 2 := by
  have escaped : ∀ list : List UInt8, (list.flatMap escape).length ≤ 6 * list.length := by
    intro list
    induction list with
    | nil => exact Nat.zero_le _
    | cons byte rest ih =>
        have first := length_escape_le byte
        rw [List.flatMap_cons, List.length_append, List.length_cons]
        omega
  rw [length_quoted, ← length_bytes]
  exact Nat.add_le_add_right (escaped _) 2

/-- A text of printable characters without quotes and backslashes only gets its
quotes. -/
theorem length_quoted_of_plain {text : String}
    (plain : ∀ byte ∈ bytes text, escape byte = [byte]) :
    (quoted text).length = text.utf8ByteSize + 2 := by
  have same : (bytes text).flatMap escape = bytes text := by
    rw [List.flatMap_congr plain]
    exact List.flatMap_singleton' _
  rw [length_quoted, same, length_bytes]

theorem bytes_ofList (chars : List Char) :
    bytes (String.ofList chars) = chars.flatMap String.utf8EncodeChar := by
  rw [bytes, String.toUTF8, String.toByteArray_ofList, List.utf8Encode,
    List.toList_data_toByteArray]

/-- A digit is one byte, and needs no escape. -/
theorem digit_plain {digit : Char} (isDigit : digit.isDigit = true) :
    String.utf8EncodeChar digit = [digit.val.toUInt8] ∧
      escape digit.val.toUInt8 = [digit.val.toUInt8] := by
  simp only [Char.isDigit, Bool.and_eq_true, decide_eq_true_eq, ge_iff_le,
    UInt32.le_iff_toNat_le] at isDigit
  rcases isDigit with ⟨low, high⟩
  have least : 48 ≤ digit.val.toNat := low
  have most : digit.val.toNat ≤ 57 := high
  have value : digit.val.toUInt8.toNat = digit.val.toNat := by
    rw [UInt32.toNat_toUInt8]
    omega
  constructor
  · apply String.utf8EncodeChar_eq_singleton
    rw [Char.utf8Size_eq_one_iff, UInt32.le_iff_toNat_le]
    exact Nat.le_trans most (by decide)
  · apply escape_of_plain
    · rw [UInt8.le_iff_toNat_le, value]
      exact Nat.le_trans (by decide) least
    · intro quote
      rw [quote] at value
      have same : 34 = digit.val.toNat := value
      omega
    · intro backslash
      rw [backslash] at value
      have same : 92 = digit.val.toNat := value
      omega

/-- A number is written as one byte for each of its digits. -/
theorem bytes_toString (value : Nat) :
    bytes (toString value) = (Nat.toDigits 10 value).map fun digit => digit.val.toUInt8 := by
  rw [Nat.toString_eq_ofList_toDigits, bytes_ofList, List.map_eq_flatMap]
  apply List.flatMap_congr
  intro digit digitMem
  exact (digit_plain (Nat.isDigit_of_mem_toDigits (by decide) (by decide) digitMem)).1

theorem length_number_le {value digits : Nat} (some : 0 < digits)
    (small : value < 10 ^ digits) : (bytes (toString value)).length ≤ digits := by
  rw [bytes_toString, List.length_map]
  exact (Nat.length_toDigits_le_iff (by decide) some).mpr small

/-- A number between quotes. -/
theorem length_quoted_number_le {value digits : Nat} (some : 0 < digits)
    (small : value < 10 ^ digits) : (quoted (toString value)).length ≤ digits + 2 := by
  have plain : ∀ byte ∈ bytes (toString value), escape byte = [byte] := by
    intro byte byteMem
    rw [bytes_toString] at byteMem
    rcases List.mem_map.mp byteMem with ⟨digit, digitMem, same⟩
    rw [← same]
    exact (digit_plain (Nat.isDigit_of_mem_toDigits (by decide) (by decide) digitMem)).2
  rw [length_quoted_of_plain plain, ← length_bytes]
  exact Nat.add_le_add_right (length_number_le some small) 2

/-! ## Objects -/

theorem length_writeMember (member : String × Value) :
    (writeMember member).length = (quoted member.1).length + 1 + member.2.write.length := by
  rcases member with ⟨name, value⟩
  simp only [writeMember, List.length_append]
  rfl

theorem length_writeRest (members : List (String × Value)) :
    (writeRest members).length =
      (members.map fun member => 1 + (writeMember member).length).sum := by
  induction members with
  | nil => rfl
  | cons member rest ih =>
      simp only [writeRest, List.length_append, List.map_cons, List.sum_cons, ih]
      rfl

/-- Every member comes with a comma, but for the first one. -/
theorem length_object_le (members : List (String × Value)) :
    (Value.object members).write.length ≤
      2 + (members.map fun member => 1 + (writeMember member).length).sum := by
  cases members with
  | nil => exact Nat.le_of_ble_eq_true rfl
  | cons member rest =>
      have opening : (bytes "\x7b").length = 1 := rfl
      have closing : (bytes "\x7d").length = 1 := rfl
      simp only [Value.write, List.length_append, length_writeRest, List.map_cons,
        List.sum_cons, opening, closing]
      omega

/-- The bytes of the names of an object's members, with what separates them. -/
def namesSize (names : List String) : Nat :=
  (names.map fun name => (quoted name).length + 2).sum

/-- A struct whose fields are small. -/
theorem length_object_le_of_values {members : List (String × Value)} {bound : Nat}
    (small : ∀ member ∈ members, member.2.write.length ≤ bound) :
    (Value.object members).write.length ≤
      2 + namesSize (members.map Prod.fst) + members.length * bound := by
  have total : (members.map fun member => 1 + (writeMember member).length).sum ≤
      namesSize (members.map Prod.fst) + members.length * bound := by
    unfold namesSize
    induction members with
    | nil => exact Nat.zero_le _
    | cons member rest ih =>
        have first := small member (List.mem_cons_self ..)
        have others := ih fun other otherMem => small other (List.mem_cons_of_mem _ otherMem)
        have size := length_writeMember member
        simp only [List.map_cons, List.sum_cons, List.length_cons, Nat.succ_mul]
        omega
  have whole := length_object_le members
  omega

/-- A map whose entries are small. -/
theorem length_object_le_of_entries {members : List (String × Value)} {bound : Nat}
    (small : ∀ member ∈ members, (writeMember member).length ≤ bound) :
    (Value.object members).write.length ≤ 2 + members.length * (1 + bound) := by
  have total : (members.map fun member => 1 + (writeMember member).length).sum ≤
      members.length * (1 + bound) := by
    rw [← List.length_map (fun member => 1 + (writeMember member).length),
      ← Nat.nsmul_eq_mul]
    apply List.sum_le_card_nsmul
    intro size sizeMem
    rcases List.mem_map.mp sizeMem with ⟨member, memberMem, same⟩
    rw [← same]
    exact Nat.add_le_add_left (small member memberMem) 1
  have whole := length_object_le members
  omega

theorem length_variant_le (name : String) (value : Value) :
    (Value.variant name value).write.length ≤ (quoted name).length + value.write.length + 4 := by
  have whole := length_object_le [(name, value)]
  simp only [List.map_singleton, List.sum_singleton, length_writeMember] at whole
  rw [Value.variant]
  omega

end Iperf.Serde
