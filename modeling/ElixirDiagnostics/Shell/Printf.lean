import ElixirDiagnostics.Shell.Arithmetic
import ElixirDiagnostics.Text.Utf8

/-!
# Formats

A format is a text with escapes, which stand for single bytes, and conversions, each of which shows
one argument. It is used again as long as arguments are left; an argument that is missing counts as
empty or zero.
-/

namespace ElixirDiagnostics

namespace Shell

open Text (Utf8.encode)

/-- The value of octal digits, as a byte. -/
def octalByte (ds : Text) : UInt8 :=
  UInt8.ofNat (ds.foldl (fun n c => 8 * n + (c.toNat - '0'.toNat)) 0)

/-- Octal digits. -/
def isOctal (c : Char) : Bool := '0' ≤ c && c ≤ '7'

/-- The octal digits at the start of a text, as many as may stand there. -/
def octalDigits (most : Nat) (s : Text) : Text := (s.take most).takeWhile isOctal

/-- The letters that stand for control bytes after a backslash. -/
def controlBytes : List (Char × UInt8) :=
  [('a', 7), ('b', 8), ('f', 12), ('n', 10), ('r', 13), ('t', 9), ('v', 11), ('\\', 92)]

/-- What a backslash and the text after it stand for, and what is left. Where no escape follows, the
backslash stands for itself. -/
def escapeByte (s : Text) : UInt8 × Text :=
  match s with
  | [] => (92, [])
  | c :: r =>
    if isOctal c then (octalByte (octalDigits 3 s), s.drop (octalDigits 3 s).length)
    else match controlBytes.lookup c with
      | some b => (b, r)
      | none => (92, s)

/-- The bytes of a text with escapes in which octal digits follow a zero, and whether it ends the
output. The fuel is more than the length of the text. -/
def unescape : Nat → Text → List UInt8 × Bool
  | 0, _ => ([], false)
  | _, [] => ([], false)
  | fuel + 1, '\\' :: r =>
    match r with
    | 'c' :: _ => ([], true)
    | '0' :: r =>
      let ds := octalDigits 3 r
      let (bs, stop) := unescape fuel (r.drop ds.length)
      (octalByte ds :: bs, stop)
    | _ =>
      let (b, r) := escapeByte r
      let (bs, stop) := unescape fuel r
      (b :: bs, stop)
  | fuel + 1, c :: r =>
    let (bs, stop) := unescape fuel r
    (Utf8.encode [c] ++ bs, stop)

/-- How an argument is shown. -/
structure Conversion where
  /-- The flags in front. -/
  flags : Text
  /-- How many characters there are at least. -/
  width : Nat
  /-- How many characters of a text there are at most, or digits of a number at least. -/
  precision : Option Nat
  /-- What kind of value is shown. -/
  kind : Char
  deriving DecidableEq, Repr

/-- Takes a conversion after its percent sign. -/
def conversion? (s : Text) : Option (Conversion × Text) :=
  let isFlag (c : Char) : Bool := c == '-' || c == '+' || c == ' ' || c == '0' || c == '#'
  let flags := s.takeWhile isFlag
  let s := s.dropWhile isFlag
  let width := s.takeWhile Char.isDigit
  let (precision, s) := match s.dropWhile Char.isDigit with
    | '.' :: r => (some (Text.decimalValue (r.takeWhile Char.isDigit)), r.dropWhile Char.isDigit)
    | r => (none, r)
  match s with
  | k :: r => some (⟨flags, Text.decimalValue width, precision, k⟩, r)
  | [] => none

/-- Fills a text up to the width of a conversion. -/
def Conversion.pad (c : Conversion) (s : Text) : Text :=
  let fill := c.width - s.length
  if c.flags.contains '-' then s ++ List.replicate fill ' '
  else List.replicate fill ' ' ++ s

/-- Shows a number by its sign and its digits. -/
def Conversion.showNumber (c : Conversion) (sign digits : Text) : Text :=
  let digits := List.replicate ((c.precision.getD 1) - digits.length) '0' ++ digits
  if c.flags.contains '0' && !c.flags.contains '-' && c.precision.isNone then
    sign ++ List.replicate (c.width - sign.length - digits.length) '0' ++ digits
  else c.pad (sign ++ digits)

/-- What stands before a number to show its base, if that is asked for. -/
def Conversion.baseMark (c : Conversion) : Text :=
  if !c.flags.contains '#' then []
  else match c.kind with
    | 'x' => ['0', 'x']
    | 'X' => ['0', 'X']
    | 'o' => ['0']
    | _ => []

/-- The number that an argument stands for, and whether it is one. A quote in front asks for the
number of a character. -/
def argumentNumber (s : Text) : Int × Bool :=
  match s with
  | [] => (0, true)
  | '\'' :: c :: _ | '"' :: c :: _ => (c.toNat, true)
  | _ => match integer? s with
    | some n => (n, true)
    | none => (0, false)

/-- What showing arguments came to. -/
structure Printed where
  /-- The bytes. -/
  bytes : List UInt8 := []
  /-- The arguments that are left. -/
  rest : List Text
  /-- What is wrong with arguments or conversions. -/
  complaints : List Text := []
  /-- Whether the output ends here. -/
  stopped : Bool := false
  deriving DecidableEq, Repr

/-- Shows one argument. -/
def Conversion.show (c : Conversion) (arg : Text) : List UInt8 × List Text × Bool :=
  let number (digits : Nat → Text) (signed : Bool) : List UInt8 × List Text × Bool :=
    let (n, good) := argumentNumber arg
    let sign : Text :=
      if !signed then [] else if n < 0 then ['-'] else if c.flags.contains '+' then ['+']
      else if c.flags.contains ' ' then [' '] else []
    let value := if signed then n.natAbs else (n % UInt64.size).toNat
    (Utf8.encode (c.showNumber (sign ++ c.baseMark) (digits value)),
      if good then [] else [arg ++ ": expected numeric value".toList], false)
  match c.kind with
  | 's' => (Utf8.encode (c.pad (arg.take (c.precision.getD arg.length))), [], false)
  | 'c' => (Utf8.encode (c.pad (arg.take 1)), [], false)
  | 'b' =>
    let (bs, stop) := unescape (arg.length + 1) arg
    (bs, [], stop)
  | 'd' | 'i' => number Text.ofNat true
  | 'u' => number Text.ofNat false
  | 'x' => number (Nat.toDigits 16) false
  | 'X' => number (fun n => (Nat.toDigits 16 n).map Char.toUpper) false
  | 'o' => number (Nat.toDigits 8) false
  | k => ([], ['%' :: k :: ": invalid directive".toList], true)

/-- Goes through a format once. The fuel is more than the length of the format. -/
def printOnce : Nat → Text → List Text → Printed
  | 0, _, args => ⟨[], args, [], false⟩
  | _, [], args => ⟨[], args, [], false⟩
  | fuel + 1, c :: r, args =>
    let first (bs : List UInt8) (r : Text) (args complaints : List Text) : Printed :=
      let p := printOnce fuel r args
      { p with bytes := bs ++ p.bytes, complaints := complaints ++ p.complaints }
    if c = '\\' then
      let (b, r) := escapeByte r
      first [b] r args []
    else if c = '%' ∧ r.head? = some '%' then first [37] (r.drop 1) args []
    else if c = '%' then
      match conversion? r with
      | none => ⟨[], args, ["missing format character".toList], true⟩
      | some (k, r) =>
        let (bs, complaints, stop) := k.show (args.headD [])
        if stop then ⟨bs, args.drop 1, complaints, true⟩
        else first bs r (args.drop 1) complaints
    else first (Utf8.encode [c]) r args []

/-- Goes through a format again and again, until no arguments are left or it takes none. The fuel is
more than the number of arguments. -/
def printAll : Nat → Text → List Text → Printed
  | 0, _, args => ⟨[], args, [], false⟩
  | fuel + 1, format, args =>
    let p := printOnce (format.length + 1) format args
    if p.stopped || p.rest.isEmpty || p.rest.length == args.length then p
    else
      let q := printAll fuel format p.rest
      { q with bytes := p.bytes ++ q.bytes, complaints := p.complaints ++ q.complaints }

end Shell

end ElixirDiagnostics
