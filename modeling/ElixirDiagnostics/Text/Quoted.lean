import ElixirDiagnostics.Text.Decimal
import ElixirDiagnostics.Text.Hex
import ElixirDiagnostics.Unicode.Category

/-!
# Quoted text in logs

Logs show lists of paths and words in quotes, so that blanks and controls can be seen. Characters
that would not show, or that would combine with the one before them, are written by their number.
An apostrophe is escaped in paths but not in words.
-/

namespace ElixirDiagnostics

namespace Text

/-- What a quoted text stands for. -/
inductive QuotedKind where
  /-- A path. -/
  | path
  /-- A word. -/
  | word
  deriving DecidableEq, Repr

/-- Whether a character has no shape of its own. -/
def isHidden (c : Char) : Bool :=
  if c.toNat < 0x80 then c.toNat < 0x20 || c == '\x7f'
  else
    [Unicode.Category.control, .format, .privateUse, .lineSeparator, .paragraphSeparator,
      .spaceSeparator, .nonspacingMark, .enclosingMark].any (·.mem c) ||
    !(Unicode.Category.all.any (·.mem c)) || c.val == 0xff9e || c.val == 0xff9f

/-- A number in hexadecimal digits. -/
def hexOfNat (n : Nat) : Text := (Nat.toDigits 16 n)

/-- How a character is written in quotes. -/
def quotedChar (kind : QuotedKind) (c : Char) : Text :=
  if c = '\x00' then ['\\', '0']
  else if c = '\t' then ['\\', 't']
  else if c = '\r' then ['\\', 'r']
  else if c = '\n' then ['\\', 'n']
  else if c = '"' ∨ c = '\\' ∨ (c = '\'' ∧ kind = .path) then ['\\', c]
  else if isHidden c then "\\u\x7b".toList ++ hexOfNat c.toNat ++ ['\x7d']
  else [c]

/-- A text in quotes. -/
def quoted (kind : QuotedKind) (s : Text) : Text := '"' :: s.flatMap (quotedChar kind) ++ ['"']

/-- A list of quoted texts in brackets. -/
def quotedList (kind : QuotedKind) (l : List Text) : Text :=
  '[' :: List.intercalate ", ".toList (l.map (quoted kind)) ++ [']']

end Text

end ElixirDiagnostics
