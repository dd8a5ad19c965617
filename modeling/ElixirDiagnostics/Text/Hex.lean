import ElixirDiagnostics.Text.Basic

/-!
# Hexadecimal numbers in text

Escapes in strings and patterns give a character by its number in hexadecimal digits. A number that
is no character, such as half of a surrogate pair, gives nothing.
-/

namespace ElixirDiagnostics

namespace Text

/-- The value of a hexadecimal digit. -/
def hexDigit? (c : Char) : Option Nat :=
  if c.isDigit then some (c.toNat - '0'.toNat)
  else if 'a' ≤ c ∧ c ≤ 'f' then some (c.toNat - 'a'.toNat + 10)
  else if 'A' ≤ c ∧ c ≤ 'F' then some (c.toNat - 'A'.toNat + 10)
  else none

/-- The value of hexadecimal digits, if there are only such. -/
def hexValue? (s : Text) : Option Nat :=
  s.foldlM (fun n c => (hexDigit? c).map (16 * n + ·)) 0

/-- The character with a number, if there is one. -/
def charOfNat? (n : Nat) : Option Char := if n.isValidChar then some (Char.ofNat n) else none

/-- The character whose number stands in hexadecimal digits. -/
def charOfHex? (s : Text) : Option Char := (hexValue? s).bind charOfNat?

/-- A hexadecimal digit in lower case. -/
def hexDigit (n : Nat) : Char := if n < 10 then Char.ofNat (48 + n) else Char.ofNat (87 + n)

end Text

end ElixirDiagnostics
