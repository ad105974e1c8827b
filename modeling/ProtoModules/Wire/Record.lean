import ProtoModules.Wire.Varint

/-!
# Records

A message is written as a sequence of records.  A record starts with a tag, which
gives a field number and the kind of what follows: a variable-length number, four
or eight bytes, a block with its length in front, or a group of records that a
matching tag ends.  A reader that does not know a field skips its record, but the
record still has to be well formed.  No record of a message has the field number
zero; the records inside a group are skipped whatever their number is.
-/

namespace ProtoModules
namespace Wire

inductive Kind where
  | varint
  | fixed64
  | block
  | groupStart
  | groupEnd
  | fixed32
deriving DecidableEq, Repr

namespace Kind

def number : Kind -> Nat
  | varint => 0
  | fixed64 => 1
  | block => 2
  | groupStart => 3
  | groupEnd => 4
  | fixed32 => 5

def ofNumber? : Nat -> Option Kind
  | 0 => some varint
  | 1 => some fixed64
  | 2 => some block
  | 3 => some groupStart
  | 4 => some groupEnd
  | 5 => some fixed32
  | _ => none

theorem number_lt (kind : Kind) : kind.number < 8 := by
  cases kind <;> decide

@[simp] theorem ofNumber?_number (kind : Kind) : ofNumber? kind.number = some kind := by
  cases kind <;> rfl

end Kind

structure Tag where
  number : Nat
  kind : Kind
deriving DecidableEq, Repr

namespace Tag

def byteLimit : Nat := 5

def read (bytes : Bytes) : Option (Tag × Bytes) := do
  let (code, rest) <- Varint.read byteLimit bytes
  let kind <- Kind.ofNumber? (code % 8)
  if code < 0x100000000 then some (⟨code / 8, kind⟩, rest) else none

def write (tag : Tag) : Bytes :=
  Varint.write (8 * tag.number + tag.kind.number)

theorem length_lt_of_read {tag : Tag} {bytes rest : Bytes}
    (h : read bytes = some (tag, rest)) : rest.length < bytes.length := by
  simp only [read, Option.bind_eq_bind, Option.bind_eq_some_iff] at h
  obtain ⟨⟨code, middle⟩, hcode, kind, _, h⟩ := h
  split at h
  · cases h
    exact Varint.length_lt_of_read hcode
  · cases h

/-- A tag with a field number in range is read back, whatever follows it. -/
theorem read_write {tag : Tag} (hlt : tag.number < 0x20000000) (rest : Bytes) :
    read (write tag ++ rest) = some (tag, rest) := by
  obtain ⟨number, kind⟩ := tag
  have hkind := kind.number_lt
  simp only at hlt
  have hcode : 8 * number + kind.number < Nat.pow 128 byteLimit := by
    have : Nat.pow 128 byteLimit = 34359738368 := by decide
    omega
  have hmod : (8 * number + kind.number) % 8 = kind.number := by omega
  have hdiv : (8 * number + kind.number) / 8 = number := by omega
  simp only [read, write]
  rw [Varint.read_write hcode (by decide)]
  simp [hmod, hdiv]
  omega

def readField (bytes : Bytes) : Option (Tag × Bytes) :=
  (read bytes).filter fun (tag, _) => tag.number ≠ 0

theorem length_lt_of_readField {tag : Tag} {bytes rest : Bytes}
    (h : readField bytes = some (tag, rest)) : rest.length < bytes.length := by
  simp [readField] at h
  exact length_lt_of_read h.1

/-- The tag of a field is read back, whatever follows it. -/
theorem readField_write {tag : Tag} (hpos : 0 < tag.number) (hlt : tag.number < 0x20000000)
    (rest : Bytes) : readField (write tag ++ rest) = some (tag, rest) := by
  simp [readField, read_write hlt, Nat.ne_of_gt hpos]

end Tag

/-- What a record holds.  The content of a group is not kept. -/
inductive Payload where
  | varint (value : Nat)
  | fixed64 (bytes : Bytes)
  | block (bytes : Bytes)
  | group
  | fixed32 (bytes : Bytes)
deriving DecidableEq, Repr

structure Record where
  number : Nat
  payload : Payload
deriving DecidableEq, Repr

namespace Record

def cut (count : Nat) (bytes : Bytes) : Option (Bytes × Bytes) :=
  if count ≤ bytes.length then some (bytes.take count, bytes.drop count) else none

def readPlain (kind : Kind) (bytes : Bytes) : Option (Payload × Bytes) :=
  match kind with
  | .varint => do
      let (value, rest) <- Varint.readValue bytes
      some (.varint value, rest)
  | .fixed64 => do
      let (eight, rest) <- cut 8 bytes
      some (.fixed64 eight, rest)
  | .block => do
      let (length, rest) <- Varint.readLength bytes
      let (content, rest) <- cut length rest
      some (.block content, rest)
  | .fixed32 => do
      let (four, rest) <- cut 4 bytes
      some (.fixed32 four, rest)
  | .groupStart | .groupEnd => none

theorem length_le_of_cut {count : Nat} {bytes head rest : Bytes}
    (h : cut count bytes = some (head, rest)) : rest.length ≤ bytes.length := by
  by_cases hcount : count ≤ bytes.length
  · simp [cut, hcount] at h
    simp [← h.2]
  · simp [cut, hcount] at h

theorem length_le_of_readPlain {kind : Kind} {payload : Payload} {bytes rest : Bytes}
    (h : readPlain kind bytes = some (payload, rest)) : rest.length ≤ bytes.length := by
  cases kind with
  | varint =>
      simp [readPlain, Option.bind_eq_some_iff] at h
      obtain ⟨value, hvalue, _⟩ := h
      exact Nat.le_of_lt (Varint.length_lt_of_readValue hvalue)
  | fixed64 =>
      simp [readPlain, Option.bind_eq_some_iff] at h
      obtain ⟨head, hcut, _⟩ := h
      exact length_le_of_cut hcut
  | block =>
      simp [readPlain, Option.bind_eq_some_iff] at h
      obtain ⟨length, middle, hlength, head, hcut, _⟩ := h
      have h1 := Varint.length_lt_of_readLength hlength
      have h2 := length_le_of_cut hcut
      omega
  | fixed32 =>
      simp [readPlain, Option.bind_eq_some_iff] at h
      obtain ⟨head, hcut, _⟩ := h
      exact length_le_of_cut hcut
  | groupStart => simp [readPlain] at h
  | groupEnd => simp [readPlain] at h

/--
Read one record inside some open groups, which are listed from the inside out, and
give the groups that are open behind it.  No more than a given number of them may
be open at once, and a group ends with its own number.
-/
def stepGroups (limit : Nat) (opened : List Nat) (bytes : Bytes) :
    Option (List Nat × Bytes) := do
  let (tag, rest) <- Tag.read bytes
  match tag.kind with
  | .groupStart => if opened.length < limit then some (tag.number :: opened, rest) else none
  | .groupEnd => if opened.head? = some tag.number then some (opened.tail, rest) else none
  | kind =>
      let (_, rest) <- readPlain kind rest
      some (opened, rest)

theorem length_lt_of_stepGroups {limit : Nat} {opened opened' : List Nat}
    {bytes rest : Bytes} (h : stepGroups limit opened bytes = some (opened', rest)) :
    rest.length < bytes.length := by
  simp only [stepGroups, Option.bind_eq_bind, Option.bind_eq_some_iff] at h
  obtain ⟨⟨⟨number, kind⟩, middle⟩, htag, h⟩ := h
  have hmiddle := Tag.length_lt_of_read htag
  cases kind with
  | groupStart | groupEnd =>
      simp at h
      simpa [← h.2.2] using hmiddle
  | varint | fixed64 | block | fixed32 =>
      simp [Option.bind_eq_some_iff] at h
      obtain ⟨⟨payload, hplain⟩, _⟩ := h
      exact Nat.lt_of_le_of_lt (length_le_of_readPlain hplain) hmiddle

def skipGroups (limit : Nat) (opened : List Nat) (bytes : Bytes) : Option Bytes :=
  if opened.isEmpty then some bytes
  else
    match _hstep : stepGroups limit opened bytes with
    | none => none
    | some (opened', rest) => skipGroups limit opened' rest
  termination_by bytes.length
  decreasing_by exact length_lt_of_stepGroups _hstep

theorem length_le_of_skipGroups {limit : Nat} {opened : List Nat} {bytes rest : Bytes}
    (h : skipGroups limit opened bytes = some rest) : rest.length ≤ bytes.length := by
  fun_induction skipGroups limit opened bytes with
  | case1 => simp at h; simp [h]
  | case2 => simp at h
  | case3 opened bytes _ opened' middle hstep ih =>
      exact Nat.le_of_lt (Nat.lt_of_le_of_lt (ih h) (length_lt_of_stepGroups hstep))

def read (limit : Nat) (bytes : Bytes) : Option (Record × Bytes) := do
  let (tag, rest) <- Tag.readField bytes
  match tag.kind with
  | .groupStart =>
      if 0 < limit then
        let rest <- skipGroups limit [tag.number] rest
        some (⟨tag.number, .group⟩, rest)
      else none
  | kind =>
      let (payload, rest) <- readPlain kind rest
      some (⟨tag.number, payload⟩, rest)

theorem length_lt_of_read {limit : Nat} {record : Record} {bytes rest : Bytes}
    (h : read limit bytes = some (record, rest)) : rest.length < bytes.length := by
  simp only [read, Option.bind_eq_bind, Option.bind_eq_some_iff] at h
  obtain ⟨⟨⟨number, kind⟩, middle⟩, htag, h⟩ := h
  have hmiddle := Tag.length_lt_of_readField htag
  cases kind with
  | groupStart =>
      simp [Option.bind_eq_some_iff] at h
      exact Nat.lt_of_le_of_lt (length_le_of_skipGroups h.2.1) hmiddle
  | varint | fixed64 | block | groupEnd | fixed32 =>
      simp [Option.bind_eq_some_iff] at h
      obtain ⟨payload, hplain, _⟩ := h
      exact Nat.lt_of_le_of_lt (length_le_of_readPlain hplain) hmiddle

end Record
end Wire
end ProtoModules
