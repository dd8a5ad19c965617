import ElixirDiagnostics.Text.Basic

/-!
# UTF-8

Text as bytes and bytes as text. A first byte says how many bytes follow it and which values the
next one may have. Bytes that are no text can be refused, or each longest beginning of a character
among them, or single byte that begins none, can be shown as the replacement character.
-/

namespace ElixirDiagnostics

namespace Text

namespace Utf8

/-- The bytes of a text. -/
def encode (s : Text) : List UInt8 := s.flatMap String.utf8EncodeChar

/-- What a first byte announces: how many bytes follow, the bounds of the next one, and the part of
the character's number that the first byte holds. -/
def announce (b : UInt8) : Option (Nat × UInt8 × UInt8 × Nat) :=
  if b < 0x80 then some (0, 0x80, 0xbf, b.toNat)
  else if 0xc2 ≤ b && b ≤ 0xdf then some (1, 0x80, 0xbf, b.toNat - 0xc0)
  else if b == 0xe0 then some (2, 0xa0, 0xbf, 0)
  else if b == 0xed then some (2, 0x80, 0x9f, 0xd)
  else if 0xe1 ≤ b && b ≤ 0xef then some (2, 0x80, 0xbf, b.toNat - 0xe0)
  else if b == 0xf0 then some (3, 0x90, 0xbf, 0)
  else if 0xf1 ≤ b && b ≤ 0xf3 then some (3, 0x80, 0xbf, b.toNat - 0xf0)
  else if b == 0xf4 then some (3, 0x80, 0x8f, 4)
  else none

/-- Takes the bytes that a first byte announced, the next one within its bounds and all others
within those of any such byte. Gives the number of the character, or nothing where a byte does not
fit, and what is left. -/
def proceed : Nat → UInt8 → UInt8 → Nat → List UInt8 → Option Nat × List UInt8
  | 0, _, _, n, bs => (some n, bs)
  | _ + 1, _, _, _, [] => (none, [])
  | k + 1, low, high, n, b :: bs =>
    if low ≤ b && b ≤ high then proceed k 0x80 0xbf (64 * n + (b.toNat - 0x80)) bs
    else (none, b :: bs)

theorem proceed_length_le (k : Nat) (low high : UInt8) (n : Nat) (bs : List UInt8) :
    (proceed k low high n bs).2.length ≤ bs.length := by
  induction k generalizing low high n bs with
  | zero => simp [proceed]
  | succ k ih =>
    cases bs with
    | nil => simp [proceed]
    | cons b bs =>
      unfold proceed
      split
      · exact Nat.le_trans (ih ..) (Nat.le_succ _)
      · simp

/-- The characters of some bytes, with nothing in the place of bytes that are no text. -/
def characters : List UInt8 → List (Option Char)
  | [] => []
  | b :: bs =>
    match announce b with
    | none => none :: characters bs
    | some (k, low, high, n) =>
      (proceed k low high n bs).1.map Char.ofNat :: characters (proceed k low high n bs).2
termination_by bs => bs.length
decreasing_by
  · simp
  · have := proceed_length_le k low high n bs
    simp only [List.length_cons]
    omega

/-- The text of some bytes, if they are text. -/
def decode? (bs : List UInt8) : Option Text := (characters bs).mapM id

/-- The character that stands for bytes that are no text. -/
def replacement : Char := '\ufffd'

/-- The text of some bytes, with replacements for those that are none. -/
def decodeLossy (bs : List UInt8) : Text := (characters bs).map (·.getD replacement)

end Utf8

end Text

end ElixirDiagnostics
