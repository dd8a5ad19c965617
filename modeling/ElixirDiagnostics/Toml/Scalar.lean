import ElixirDiagnostics.Toml.Quoted

/-!
# TOML numbers and dates

Numbers and dates are only told apart and checked here; they are kept as they are written. Digits
may be separated by single underscores, decimal numbers have no leading zeros, integers fit into 64
bits, and dates are dates of the calendar.
-/

namespace ElixirDiagnostics

namespace Toml

/-- Reads digits of one kind with single underscores between them. -/
def digits? (isDigit : Char → Bool) : Text → Option (Text × Text)
  | '_' :: _ => none
  | s =>
    let shown := s.takeWhile fun c => isDigit c || c == '_'
    let ws := List.splitOn '_' shown
    if ws.all (fun w => !w.isEmpty) then some (shown, s.drop shown.length)
    else none

/-- A hexadecimal digit. -/
def isHexDigit (c : Char) : Bool := (Text.hexDigit? c).isSome

/-- The value of digits to a base, underscores aside. -/
def valueOf (base : Nat) (s : Text) : Nat :=
  s.foldl (fun n c => match Text.hexDigit? c with
    | some d => base * n + d
    | none => n) 0

/-- Reads a decimal number without sign and leading zeros. -/
def decimal? (s : Text) : Option (Text × Text) :=
  match s with
  | '0' :: r => some (['0'], r)
  | s => digits? Char.isDigit s

/-- Takes a sign off a number. -/
def sign? : Text → Option Char × Text
  | '+' :: r => (some '+', r)
  | '-' :: r => (some '-', r)
  | s => (none, s)

/-- Reads an integer. -/
def integer? (s : Text) : Option Text :=
  let prefixed (isDigit : Char → Bool) (base : Nat) (r : Text) : Option Text := do
    let (ds, r) ← digits? isDigit r
    if valueOf base ds < UInt64.size / 2 then some r else none
  match s with
  | '0' :: 'x' :: r => prefixed isHexDigit 16 r
  | '0' :: 'o' :: r => prefixed (fun c => '0' ≤ c && c ≤ '7') 8 r
  | '0' :: 'b' :: r => prefixed (fun c => c == '0' || c == '1') 2 r
  | s => do
    let (sign, r) := sign? s
    let (ds, r) ← decimal? r
    let n := valueOf 10 ds
    let bound := UInt64.size / 2
    if n < bound ∨ (n = bound ∧ sign = some '-') then some r else none

/-- Reads the exponent of a number. -/
def exponent? : Text → Option Text
  | 'e' :: r | 'E' :: r => (digits? Char.isDigit (sign? r).2).map (·.2)
  | _ => none

/-- Reads a number with a fraction, an exponent or both, or one that is not finite. -/
def float? (s : Text) : Option Text :=
  let r := (sign? s).2
  ((Text.after? "inf".toList r).or (Text.after? "nan".toList r)).or do
    let (_, r) ← decimal? r
    match r with
    | '.' :: r => do
      let (_, r) ← digits? Char.isDigit r
      return (exponent? r).getD r
    | r => exponent? r

/-- Reads exactly `n` digits whose value lies between two bounds. -/
def field? (n low high : Nat) (s : Text) : Option (Nat × Text) :=
  let ds := (s.take n).takeWhile Char.isDigit
  let v := valueOf 10 ds
  if ds.length = n ∧ low ≤ v ∧ v ≤ high then some (v, s.drop n) else none

/-- The number of days of a month. -/
def daysOf (year month : Nat) : Nat :=
  if month = 2 then
    if year % 4 = 0 ∧ (year % 100 ≠ 0 ∨ year % 400 = 0) then 29 else 28
  else if month ∈ [4, 6, 9, 11] then 30 else 31

/-- Reads a date. -/
def date? (s : Text) : Option Text := do
  let (year, r) ← field? 4 0 9999 s
  let (month, r) ← field? 2 1 12 (← Text.after? ['-'] r)
  let (_, r) ← field? 2 1 (daysOf year month) (← Text.after? ['-'] r)
  return r

/-- Reads a time of day. -/
def time? (s : Text) : Option Text := do
  let (_, r) ← field? 2 0 23 s
  let (_, r) ← field? 2 0 59 (← Text.after? [':'] r)
  let (_, r) ← field? 2 0 60 (← Text.after? [':'] r)
  match r with
  | '.' :: q => return ((Text.run? Char.isDigit q).map (·.2)).getD r
  | r => return r

/-- Reads the distance from universal time. -/
def offset? : Text → Option Text
  | 'Z' :: r | 'z' :: r => some r
  | '+' :: r | '-' :: r => do
    let (_, r) ← field? 2 0 23 r
    let (_, r) ← field? 2 0 59 (← Text.after? [':'] r)
    return r
  | _ => none

/-- Reads a date, a time or both. -/
def moment? (s : Text) : Option Text :=
  (do
    let r ← date? s
    match r with
    | 'T' :: q | 't' :: q | ' ' :: q =>
      match time? q with
      | some q => return (offset? q).getD q
      | none => return r
    | r => return r).or (time? s)

end Toml

end ElixirDiagnostics
