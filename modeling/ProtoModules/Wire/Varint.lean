import ProtoModules.Text.Utf8

/-!
# Variable-length numbers

A number is written in groups of seven bits, the lowest group first, one to a
byte; the high bit of a byte says that another one follows.  Readers accept
more bytes than a number needs, up to a limit.
-/

namespace ProtoModules
namespace Wire
namespace Varint

def write (n : Nat) : Bytes :=
  if n < 128 then [UInt8.ofNat n]
  else UInt8.ofNat (n % 128 + 128) :: write (n / 128)
  termination_by n

def read : Nat -> Bytes -> Option (Nat × Bytes)
  | 0, _ => none
  | _ + 1, [] => none
  | limit + 1, b :: rest =>
      if b.toNat < 128 then some (b.toNat, rest)
      else (read limit rest).map fun (high, rest) => (b.toNat - 128 + 128 * high, rest)

theorem length_lt_of_read {limit n : Nat} {bytes rest : Bytes}
    (h : read limit bytes = some (n, rest)) : rest.length < bytes.length := by
  induction limit generalizing n bytes with
  | zero => simp [read] at h
  | succ limit ih =>
      cases bytes with
      | nil => simp [read] at h
      | cons b tail =>
          by_cases hb : b.toNat < 128
          · simp [read, hb] at h
            simp [← h.2]
          · simp [read, hb] at h
            obtain ⟨high, hread, _⟩ := h
            have := ih hread
            simp only [List.length_cons]
            omega

def valueLimit : Nat := 10

/-- Read a value, of which the low sixty-four bits count. -/
def readValue (bytes : Bytes) : Option (Nat × Bytes) :=
  (read valueLimit bytes).map fun (n, rest) => (n % 0x10000000000000000, rest)

theorem length_lt_of_readValue {n : Nat} {bytes rest : Bytes}
    (h : readValue bytes = some (n, rest)) : rest.length < bytes.length := by
  simp [readValue] at h
  obtain ⟨value, hread, _⟩ := h
  exact length_lt_of_read hread

def lengthLimit : Nat := 5

def readLength (bytes : Bytes) : Option (Nat × Bytes) :=
  (read lengthLimit bytes).filter fun (n, _) => n < 0x80000000

theorem length_lt_of_readLength {n : Nat} {bytes rest : Bytes}
    (h : readLength bytes = some (n, rest)) : rest.length < bytes.length := by
  simp [readLength] at h
  exact length_lt_of_read h.1

/-!
## Reading inverts writing
-/

theorem write_of_lt {n : Nat} (h : n < 128) : write n = [UInt8.ofNat n] := by
  rw [write, if_pos h]

/-- A number that fits into the limit is read back, whatever follows it. -/
theorem read_write {limit n : Nat} (h : n < Nat.pow 128 limit) (hlimit : 0 < limit) (rest : Bytes) :
    read limit (write n ++ rest) = some (n, rest) := by
  have hsize : UInt8.size = 256 := rfl
  induction limit generalizing n with
  | zero => simp at hlimit
  | succ limit ih =>
      by_cases hn : n < 128
      · have hbyte : (UInt8.ofNat n).toNat = n := UInt8.toNat_ofNat_of_lt' (by omega)
        simp [write_of_lt hn, read, hbyte, hn]
      · have hbyte : (UInt8.ofNat (n % 128 + 128)).toNat = n % 128 + 128 :=
          UInt8.toNat_ofNat_of_lt' (by omega)
        have hhigh : n / 128 < Nat.pow 128 limit := by
          have hpow : Nat.pow 128 (limit + 1) = Nat.pow 128 limit * 128 := rfl
          exact Nat.div_lt_of_lt_mul (by omega)
        have hpos : 0 < limit := by
          cases limit with
          | zero => simp at hhigh; omega
          | succ => omega
        rw [write, if_neg hn, List.cons_append, read, hbyte, if_neg (by omega), ih hhigh hpos]
        simp
        omega

theorem readValue_write {n : Nat} (h : n < 0x10000000000000000) (rest : Bytes) :
    readValue (write n ++ rest) = some (n, rest) := by
  have hlimit : n < Nat.pow 128 valueLimit := Nat.lt_trans h (by decide)
  rw [readValue, read_write hlimit (by decide)]
  simp only [Option.map_some, Nat.mod_eq_of_lt h]

theorem readLength_write {n : Nat} (h : n < 0x80000000) (rest : Bytes) :
    readLength (write n ++ rest) = some (n, rest) := by
  have hlimit : n < Nat.pow 128 lengthLimit := Nat.lt_trans h (by decide)
  rw [readLength, read_write hlimit (by decide)]
  simp [h]

end Varint
end Wire
end ProtoModules
