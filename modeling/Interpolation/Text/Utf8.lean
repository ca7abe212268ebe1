import Interpolation.Text

/-!
# Bytes as text

Well-formed UTF-8 is read character by character. A part that is not well formed is read as one
failure, as long as it could still have been the start of a character: the strict reading refuses it
and the lossy reading writes the replacement character for it.
-/

namespace Interpolation.Utf8

/-- What a first byte asks for: the bits it brings, how many bytes must follow, and the range of the
next one. -/
structure Lead where
  bits : Nat
  following : Nat
  least : Nat := 0x80
  greatest : Nat := 0xBF

def lead? (b : Nat) : Option Lead :=
  if b < 0x80 then some ⟨b, 0, 0x80, 0xBF⟩
  else if b < 0xC2 then none
  else if b < 0xE0 then some ⟨b - 0xC0, 1, 0x80, 0xBF⟩
  else if b = 0xE0 then some ⟨0, 2, 0xA0, 0xBF⟩
  else if b = 0xED then some ⟨0xD, 2, 0x80, 0x9F⟩
  else if b < 0xF0 then some ⟨b - 0xE0, 2, 0x80, 0xBF⟩
  else if b = 0xF0 then some ⟨0, 3, 0x90, 0xBF⟩
  else if b < 0xF4 then some ⟨b - 0xF0, 3, 0x80, 0xBF⟩
  else if b = 0xF4 then some ⟨4, 3, 0x80, 0x8F⟩
  else none

/-- Read the following bytes of a sequence: its code point if they are all there, and the rest. -/
def following : Nat → Nat → Nat → Nat → List UInt8 → Option Nat × List UInt8
  | 0, _, _, point, bytes => (some point, bytes)
  | _ + 1, _, _, _, [] => (none, [])
  | n + 1, least, greatest, point, b :: bytes =>
    if least ≤ b.toNat ∧ b.toNat ≤ greatest then
      following n 0x80 0xBF (64 * point + (b.toNat - 0x80)) bytes
    else (none, b :: bytes)

theorem following_length_le (n least greatest point : Nat) (bytes : List UInt8) :
    (following n least greatest point bytes).2.length ≤ bytes.length := by
  induction bytes generalizing n least greatest point with
  | nil => cases n <;> simp [following]
  | cons b bytes ih =>
    cases n with
    | zero => simp [following]
    | succ n =>
      rw [following]
      split
      · exact Nat.le_succ_of_le (ih ..)
      · simp

def read : List UInt8 → List (Option Char)
  | [] => []
  | b :: bytes =>
    match lead? b.toNat with
    | none => none :: read bytes
    | some l =>
      match h : following l.following l.least l.greatest l.bits bytes with
      | (point, rest) =>
        have : rest.length ≤ bytes.length := by
          have := following_length_le l.following l.least l.greatest l.bits bytes
          simpa [h] using this
        point.map Char.ofNat :: read rest
termination_by bytes => bytes.length

/-- The text of a well-formed byte sequence. -/
def decode? (bytes : List UInt8) : Option Text :=
  (read bytes).mapM id

/-- The text of any byte sequence: U+FFFD stands for each part that is not well formed. -/
def decodeLossy (bytes : List UInt8) : Text :=
  (read bytes).map fun c => c.getD (Char.ofNat 0xFFFD)

def encode (t : Text) : List UInt8 :=
  t.flatMap String.utf8EncodeChar

end Interpolation.Utf8
