import Iperf.Serde.Compact

/-!
# Legible writers

What a writer writes for a value is legible if it shows where it ends: with
something behind it, the value and what is behind can be told from the whole.
Compact JSON is legible, but for numbers, which end where their digits end.
-/

namespace Iperf.Serde

/-! ## Writers in general -/

section Writers

variable {α β γ : Type} {write : α → List β} {ends : List β → Prop} {value : α}

/-- What is written for `value`, with something behind it that may stand there, is written
for nothing else. -/
def Legible (write : α → List β) (ends : List β → Prop) (value : α) : Prop :=
  ∀ (other : α) (rest tail : List β), ends rest → ends tail →
    write value ++ rest = write other ++ tail → value = other ∧ rest = tail

/-- Anything may stand behind. -/
def Anything (_ : List β) : Prop :=
  True

theorem Legible.mono {fewer : List β → Prop} (legible : Legible write ends value)
    (weaker : ∀ rest, fewer rest → ends rest) : Legible write fewer value :=
  fun other rest tail endsRest endsTail =>
    legible other rest tail (weaker rest endsRest) (weaker tail endsTail)

/-- It is enough to have a reader. -/
theorem legible_of_read {read : List β → Option (α × List β)}
    (reads : ∀ value rest, read (write value ++ rest) = some (value, rest)) (value : α) :
    Legible write Anything value := by
  intro other rest tail _ _ same
  have both : some (value, rest) = some (other, tail) := by
    rw [← reads value rest, ← reads other tail, same]
  cases both
  exact ⟨rfl, rfl⟩

/-- A writer that keeps to some letters ends where another letter begins. -/
theorem legible_of_letters {letter : β → Bool} (injective : Function.Injective write)
    (letters : ∀ value, ∀ byte ∈ write value, letter byte = true) (value : α) :
    Legible write (fun rest => ∀ byte ∈ rest.head?, letter byte = false) value := by
  intro other rest tail endsRest endsTail same
  have first : ∀ (value : α) (rest : List β), (∀ byte ∈ rest.head?, letter byte = false) →
      (write value ++ rest).takeWhile letter = write value := by
    intro value rest ends
    rw [List.takeWhile_append_of_pos (letters value)]
    cases rest with
    | nil => exact List.append_nil _
    | cons byte rest =>
        rw [List.takeWhile_cons_of_neg (by rw [ends byte rfl]; exact Bool.false_ne_true),
          List.append_nil]
  have whole : write value = write other := by
    rw [← first value rest endsRest, same, first other tail endsTail]
  rw [whole] at same
  exact ⟨injective whole, List.append_cancel_left same⟩

theorem Legible.comp {into : γ → α} {value : γ} (legible : Legible write ends (into value))
    (injective : Function.Injective into) :
    Legible (fun value => write (into value)) ends value := by
  intro other rest tail endsRest endsTail same
  rcases legible (into other) rest tail endsRest endsTail same with ⟨equal, left⟩
  exact ⟨injective equal, left⟩

/-- The same bytes before every value. -/
theorem Legible.behind (legible : Legible write ends value) (opening : List β) :
    Legible (fun value => opening ++ write value) ends value := by
  intro other rest tail endsRest endsTail same
  rw [List.append_assoc, List.append_assoc] at same
  exact legible other rest tail endsRest endsTail (List.append_cancel_left same)

/-- One value behind another. -/
theorem Legible.pair {second : γ → List β} {endsSecond : List β → Prop} {pair : α × γ}
    (first : Legible write ends pair.1) (legible : Legible second endsSecond pair.2)
    (starts : ∀ value rest, ends (second value ++ rest)) :
    Legible (fun pair : α × γ => write pair.1 ++ second pair.2) endsSecond pair := by
  intro other rest tail endsRest endsTail same
  rw [List.append_assoc, List.append_assoc] at same
  rcases first other.1 _ _ (starts _ _) (starts _ _) same with ⟨equal, left⟩
  rcases legible other.2 rest tail endsRest endsTail left with ⟨equals, left⟩
  exact ⟨Prod.ext equal equals, left⟩

/-- Values one behind another, up to a last letter. -/
def writeUntil (write : α → List β) (last : β) (values : List α) : List β :=
  values.flatMap write ++ [last]

theorem writeUntil_cons (write : α → List β) (last : β) (value : α) (values : List α) :
    writeUntil write last (value :: values) = write value ++ writeUntil write last values := by
  rw [writeUntil, List.flatMap_cons, List.append_assoc, writeUntil]

/-- None of the values may begin with the last letter. -/
theorem legible_until {last : β} {values : List α}
    (legible : ∀ value ∈ values, Legible write ends value)
    (starts : ∀ value rest, ends (write value ++ rest)) (closes : ∀ rest, ends (last :: rest))
    (apart : ∀ value rest tail, write value ++ rest ≠ last :: tail) :
    Legible (writeUntil write last) Anything values := by
  have follows : ∀ (values : List α) (rest : List β),
      ends (writeUntil write last values ++ rest) := by
    intro values rest
    cases values with
    | nil => exact closes rest
    | cons value values =>
        rw [writeUntil_cons, List.append_assoc]
        exact starts value _
  induction values with
  | nil =>
      intro others rest tail _ _ same
      cases others with
      | nil => exact ⟨rfl, (List.cons.inj same).2⟩
      | cons other others =>
          rw [writeUntil_cons, List.append_assoc] at same
          exact absurd same.symm (apart other _ _)
  | cons value values ih =>
      intro others rest tail _ _ same
      rw [writeUntil_cons, List.append_assoc] at same
      cases others with
      | nil => exact absurd same (apart value _ _)
      | cons other others =>
          rw [writeUntil_cons, List.append_assoc] at same
          rcases legible value (List.mem_cons_self ..) other _ _ (follows _ _) (follows _ _) same
            with ⟨equal, left⟩
          rcases ih (fun value valueMem => legible value (List.mem_cons_of_mem _ valueMem)) others
            rest tail trivial trivial left with ⟨equals, left⟩
          exact ⟨by rw [equal, equals], left⟩

end Writers

/-! ## Strings and numbers -/

theorem bytes_injective : Function.Injective bytes := by
  intro text other same
  apply String.toByteArray_inj.mp
  exact ByteArray.ext (Array.toList_inj.mp same)

/-- The half of a byte that is written as `digit`. -/
def unhexDigit (digit : UInt8) : UInt8 :=
  if digit < 58 then digit - 48 else digit - 87

/-- The byte that is written by its escape alone. -/
def unmark (mark : UInt8) : UInt8 :=
  if mark = 98 then 8
  else if mark = 116 then 9
  else if mark = 110 then 10
  else if mark = 102 then 12
  else if mark = 114 then 13
  else mark

/-- The first byte of a string, and what is left of it. -/
def unescape : List UInt8 → Option (UInt8 × List UInt8)
  | 92 :: 117 :: _ :: _ :: high :: low :: rest =>
      some (16 * unhexDigit high + unhexDigit low, rest)
  | 92 :: mark :: rest => some (unmark mark, rest)
  | byte :: rest => some (byte, rest)
  | [] => none

theorem unhexDigit_hexDigit (byte : UInt8) :
    16 * unhexDigit (hexDigit (byte / 16)) + unhexDigit (hexDigit (byte % 16)) = byte := by
  have all : ∀ bits : BitVec 8,
      16 * unhexDigit (hexDigit (⟨bits⟩ / 16)) + unhexDigit (hexDigit (⟨bits⟩ % 16)) =
        (⟨bits⟩ : UInt8) := by
    decide +kernel
  exact all byte.toBitVec

theorem unescape_escape (byte : UInt8) (rest : List UInt8) :
    unescape (escape byte ++ rest) = some (byte, rest) := by
  unfold escape
  split
  · rename_i marked
    rcases marked with rfl | rfl <;> rfl
  · rename_i unmarked
    have notMark : byte ≠ 92 := fun mark => unmarked (.inr mark)
    split
    · rw [List.singleton_append, unescape]
      · rintro _ _ _ _ _ mark
        exact absurd mark notMark
      · rintro _ _ mark
        exact absurd mark notMark
    · repeat' split
      all_goals first
        | (rename_i control; subst control; rfl)
        | exact congrArg (fun byte => some (byte, rest)) (unhexDigit_hexDigit byte)

theorem escape_legible (byte : UInt8) : Legible escape Anything byte :=
  legible_of_read unescape_escape byte

/-- No quote stands between quotes by itself. -/
theorem escape_ne_quote (byte : UInt8) (rest tail : List UInt8) :
    escape byte ++ rest ≠ 34 :: tail := by
  intro same
  have read := unescape_escape byte rest
  rw [same] at read
  cases read
  cases same

theorem quoted_legible (text : String) : Legible quoted Anything text := by
  have letters : Legible (writeUntil escape 34) Anything (bytes text) :=
    legible_until (fun byte _ => escape_legible byte) (fun _ _ => trivial) (fun _ => trivial)
      escape_ne_quote
  exact (letters.behind [34]).comp bytes_injective

def isDigit (byte : UInt8) : Bool :=
  decide (48 ≤ byte ∧ byte ≤ 57)

theorem number_injective : Function.Injective fun value : Nat => bytes (toString value) := by
  intro value other same
  have digits := bytes_injective same
  rw [Nat.toString_eq_ofList_toDigits, Nat.toString_eq_ofList_toDigits, String.ofList_inj] at digits
  rw [← @Nat.ofDigitChars_toDigits 10 value (by decide) (by decide), digits,
    Nat.ofDigitChars_toDigits (by decide) (by decide)]

theorem isDigit_of_number (value : Nat) :
    ∀ byte ∈ bytes (toString value), isDigit byte = true := by
  intro byte byteMem
  rw [bytes_toString] at byteMem
  rcases List.mem_map.mp byteMem with ⟨digit, digitMem, same⟩
  have range := Nat.isDigit_of_mem_toDigits (by decide) (by decide) digitMem
  simp only [Char.isDigit, Bool.and_eq_true, decide_eq_true_eq, ge_iff_le,
    UInt32.le_iff_toNat_le] at range
  rcases range with ⟨low, high⟩
  have least : 48 ≤ digit.val.toNat := low
  have most : digit.val.toNat ≤ 57 := high
  rw [← same, isDigit, decide_eq_true_eq, UInt8.le_iff_toNat_le, UInt8.le_iff_toNat_le,
    UInt32.toNat_toUInt8]
  constructor
  · exact Nat.le_trans least (by omega)
  · exact Nat.le_trans (Nat.mod_le _ _) most

/-- Behind a value stands nothing a number could go on with. -/
def NoDigit (rest : List UInt8) : Prop :=
  ∀ byte ∈ rest.head?, isDigit byte = false

theorem number_legible (value : Nat) :
    Legible (fun value : Nat => bytes (toString value)) NoDigit value :=
  legible_of_letters number_injective isDigit_of_number value

/-! ## Values -/

inductive Kind where
  | null
  | bool
  | number
  | string
  | object

def Value.kind : Value → Kind
  | .null => .null
  | .bool _ => .bool
  | .number _ => .number
  | .string _ => .string
  | .object _ => .object

/-- The kind of the value that begins with `byte`. -/
def kindOf (byte : UInt8) : Kind :=
  if byte = 110 then .null
  else if byte = 116 ∨ byte = 102 then .bool
  else if byte = 34 then .string
  else if byte = 123 then .object
  else .number

theorem kindOf_digit {byte : UInt8} (digit : isDigit byte = true) : kindOf byte = .number := by
  simp only [isDigit, decide_eq_true_eq, UInt8.le_iff_toNat_le] at digit
  rcases digit with ⟨least, most⟩
  have other : ∀ letter : UInt8, letter.toNat < 48 ∨ 57 < letter.toNat → byte ≠ letter := by
    rintro letter outside rfl
    have low : 48 ≤ byte.toNat := least
    have high : byte.toNat ≤ 57 := most
    omega
  simp only [kindOf, other 110 (by decide), other 116 (by decide), other 102 (by decide),
    other 34 (by decide), other 123 (by decide), or_self, if_false]

/-- The first byte tells the kind of a value. -/
theorem kindOf_write (value : Value) :
    ∃ first behind, value.write = first :: behind ∧ kindOf first = value.kind := by
  cases value with
  | null => exact ⟨110, _, rfl, rfl⟩
  | bool value =>
      cases value with
      | true => exact ⟨116, _, rfl, rfl⟩
      | false => exact ⟨102, _, rfl, rfl⟩
  | number value =>
      rw [Value.write]
      cases digits : bytes (toString value) with
      | nil =>
          rw [bytes_toString, List.map_eq_nil_iff] at digits
          exact absurd digits Nat.toDigits_ne_nil
      | cons first behind =>
          have digit := isDigit_of_number value first (by rw [digits]; exact List.mem_cons_self ..)
          exact ⟨first, behind, rfl, kindOf_digit digit⟩
  | string text => exact ⟨34, _, rfl, rfl⟩
  | object members =>
      cases members with
      | nil => exact ⟨123, _, rfl, rfl⟩
      | cons member rest => exact ⟨123, _, rfl, rfl⟩

/-- Two values of which one is written at the beginning of the other are of one kind. -/
theorem kind_eq_of_write {value other : Value} {rest tail : List UInt8}
    (same : value.write ++ rest = other.write ++ tail) : value.kind = other.kind := by
  rcases kindOf_write value with ⟨first, behind, writes, kind⟩
  rcases kindOf_write other with ⟨letter, after, writesOther, kindOther⟩
  rw [writes, writesOther] at same
  rw [← kind, ← kindOther, (List.cons.inj same).1]

/-- The members behind the first one, up to the end of their object. -/
theorem writeRest_eq (members : List (String × Value)) :
    writeRest members ++ bytes "\x7d" =
      writeUntil (fun member => bytes "," ++ writeMember member) 125 members := by
  induction members with
  | nil => rfl
  | cons member rest ih =>
      rw [writeUntil_cons, ← ih, writeRest, List.append_assoc, List.append_assoc]

theorem noDigit_cons {first : UInt8} (rest : List UInt8) (other : isDigit first = false) :
    NoDigit (first :: rest) := by
  rintro byte ⟨⟩
  exact other

theorem member_legible {member : String × Value}
    (legible : Legible Value.write NoDigit member.2) : Legible writeMember NoDigit member := by
  have whole : writeMember = fun member => quoted member.1 ++ (bytes ":" ++ member.2.write) := by
    funext member
    rw [writeMember, List.append_assoc]
  rw [whole]
  exact (quoted_legible member.1).pair (legible.behind (bytes ":")) fun _ _ => trivial

/-- Behind a member stands a comma or the end of its object. -/
theorem rest_legible {members : List (String × Value)}
    (legible : ∀ member ∈ members, Legible writeMember NoDigit member) :
    Legible (writeUntil (fun member => bytes "," ++ writeMember member) 125) Anything members := by
  apply @legible_until _ _ _ NoDigit
  · exact fun member memberMem => (legible member memberMem).behind (bytes ",")
  · exact fun member rest => noDigit_cons _ rfl
  · exact fun rest => noDigit_cons rest rfl
  · intro member rest tail same
    have comma : (44 : UInt8) = 125 := (List.cons.inj same).1
    exact absurd comma (by decide)

theorem write_object_cons (member : String × Value) (members : List (String × Value)) :
    (Value.object (member :: members)).write = bytes "\x7b" ++ (writeMember member ++
      writeUntil (fun member => bytes "," ++ writeMember member) 125 members) := by
  rw [Value.write, ← writeRest_eq, List.append_assoc, List.append_assoc]

/-- An empty object begins like no other one. -/
theorem write_object_nil_ne (member : String × Value) (members : List (String × Value))
    (rest tail : List UInt8) :
    (Value.object []).write ++ rest ≠ (Value.object (member :: members)).write ++ tail := by
  intro same
  rcases member with ⟨name, value⟩
  have second := congrArg (fun list => list[1]?) same
  have letters : some (125 : UInt8) = some 34 := second
  exact absurd letters (by decide)

theorem object_legible {members : List (String × Value)}
    (legible : ∀ member ∈ members, Legible writeMember NoDigit member) :
    Legible (fun members => (Value.object members).write) Anything members := by
  intro others rest tail _ _ same
  cases members with
  | nil =>
      cases others with
      | nil => exact ⟨rfl, List.append_cancel_left same⟩
      | cons other others => exact absurd same (write_object_nil_ne other others rest tail)
  | cons member members =>
      cases others with
      | nil => exact absurd same.symm (write_object_nil_ne member members tail rest)
      | cons other others =>
          have first := legible member (List.mem_cons_self ..)
          have behind := rest_legible fun member memberMem =>
            legible member (List.mem_cons_of_mem _ memberMem)
          have closes : ∀ (members : List (String × Value)) (rest : List UInt8),
              NoDigit (writeUntil (fun member => bytes "," ++ writeMember member) 125 members ++
                rest) := by
            intro members rest
            cases members with
            | nil => exact noDigit_cons rest rfl
            | cons member members => exact noDigit_cons _ rfl
          have whole := (@Legible.pair _ _ _ _ _ _ _ (member, members) first behind closes).behind
            (bytes "\x7b")
          simp only [write_object_cons] at same
          rcases whole (other, others) rest tail trivial trivial same with ⟨equal, left⟩
          cases equal
          exact ⟨rfl, left⟩

mutual

/-- A value ends where no digit follows. -/
theorem value_legible : ∀ value : Value, Legible Value.write NoDigit value
  | .null => by
      intro other rest tail _ _ same
      have kind := kind_eq_of_write same
      cases other with
      | null => exact ⟨rfl, List.append_cancel_left same⟩
      | bool | number | string | object => cases kind
  | .bool value => by
      intro other rest tail _ _ same
      have kind := kind_eq_of_write same
      cases other with
      | bool other =>
          cases value <;> cases other
          · exact ⟨rfl, List.append_cancel_left same⟩
          · have letter : (102 : UInt8) = 116 := (List.cons.inj same).1
            exact absurd letter (by decide)
          · have letter : (116 : UInt8) = 102 := (List.cons.inj same).1
            exact absurd letter (by decide)
          · exact ⟨rfl, List.append_cancel_left same⟩
      | null | number | string | object => cases kind
  | .number value => by
      intro other rest tail endsRest endsTail same
      have kind := kind_eq_of_write same
      cases other with
      | number other =>
          rcases number_legible value other rest tail endsRest endsTail same with ⟨equal, left⟩
          exact ⟨congrArg Value.number equal, left⟩
      | null | bool | string | object => cases kind
  | .string text => by
      intro other rest tail _ _ same
      have kind := kind_eq_of_write same
      cases other with
      | string other =>
          rcases quoted_legible text other rest tail trivial trivial same with ⟨equal, left⟩
          exact ⟨congrArg Value.string equal, left⟩
      | null | bool | number | object => cases kind
  | .object members => by
      intro other rest tail _ _ same
      have kind := kind_eq_of_write same
      cases other with
      | object others =>
          rcases object_legible (members_legible members) others rest tail trivial trivial same with
            ⟨equal, left⟩
          exact ⟨congrArg Value.object equal, left⟩
      | null | bool | number | string => cases kind

theorem members_legible : ∀ members : List (String × Value), ∀ member ∈ members,
    Legible writeMember NoDigit member
  | [] => fun _ memberMem => (List.not_mem_nil memberMem).elim
  | (name, value) :: rest => by
      intro member memberMem
      rcases List.mem_cons.mp memberMem with rfl | later
      · exact member_legible (value_legible value)
      · exact members_legible rest member later

end

/-- An object ends by itself. -/
theorem write_object_legible (members : List (String × Value)) :
    Legible (fun members => (Value.object members).write) Anything members :=
  object_legible (members_legible members)

end Iperf.Serde
