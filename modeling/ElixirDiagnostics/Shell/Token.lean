import ElixirDiagnostics.Shell.Word

/-!
# Tokens of shell scripts

A script is a sequence of words, operators and line ends. Text that a command reads from the script
itself stands below the line of the command, up to a line that holds just the word that was given as
its end; if that word is quoted the text has no parts with a meaning.
-/

namespace ElixirDiagnostics

namespace Shell

/-- A token. -/
inductive Token where
  /-- A word, with the line it stands on. -/
  | word (line : Nat) (w : Word)
  /-- An operator between commands. -/
  | operator (s : Text)
  /-- The end of a line. -/
  | newline
  /-- A redirection, whose target is the next word. -/
  | redirect (stream : Nat) (d : Direction)
  /-- A redirection from the script itself, with what is read. -/
  | here (stream : Nat) (body : Word)
  deriving DecidableEq, Repr

/-- A text that a command reads from the script, and how far it was announced. -/
structure HereText where
  /-- The stream that reads it. -/
  stream : Nat
  /-- The line that ends it. -/
  stop : Text
  /-- Whether tabs at the start of its lines are dropped. -/
  dropTabs : Bool
  /-- Whether it has no parts with a meaning. -/
  verbatim : Bool

/-- Takes the lines up to the one that ends a text. -/
def hereLines (h : HereText) : List Text → List Text × List Text
  | [] => ([], [])
  | l :: ls =>
    let l := if h.dropTabs then l.dropWhile (· == '\t') else l
    if l = h.stop then ([], ls)
    else
      let (body, rest) := hereLines h ls
      (l :: body, rest)

/-- The word that a text read from the script stands for: quotes have no meaning in it, and all of
it is one word. -/
def hereWord? (h : HereText) (body : List Text) : Option Word :=
  let text := body.flatMap (· ++ ['\n'])
  if h.verbatim then some [.literal text true]
  else
    let quotesKept := text.flatMap fun c => if c = '"' then ['\\', '"'] else [c]
    (doubleQuoted? (quotesKept.length + 2) (quotesKept ++ ['"'])).map (·.1)

/-- What a redirection operator at the start of a text means: the stream it is for by default, its
direction, and what follows it. -/
def redirection? : Text → Option (Nat × Direction × Text)
  | '>' :: '>' :: r => some (1, .append, r)
  | '>' :: '&' :: r => some (1, .duplicate, r)
  | '>' :: '|' :: r => some (1, .output, r)
  | '>' :: r => some (1, .output, r)
  | '<' :: '<' :: '-' :: r => some (0, .here, '\t' :: r)
  | '<' :: '<' :: r => some (0, .here, r)
  | '<' :: '&' :: r => some (0, .duplicate, r)
  | '<' :: r => some (0, .input, r)
  | _ => none

/-- An operator at the start of a text. -/
def operator? : Text → Option (Text × Text)
  | '&' :: '&' :: r => some (['&', '&'], r)
  | '|' :: '|' :: r => some (['|', '|'], r)
  | ';' :: ';' :: r => some ([';', ';'], r)
  | c :: r =>
    if c = ';' ∨ c = '&' ∨ c = '|' ∨ c = '(' ∨ c = ')' then some ([c], r) else none
  | [] => none

/-- Puts the texts that are read from the script into the place of their announcements, which are
redirections without a target. -/
def fillHere (bodies : List Word) : List Token → List Token
  | [] => []
  | .redirect n .here :: ts =>
    match bodies with
    | b :: bs => .here n b :: fillHere bs ts
    | [] => .here n [] :: fillHere [] ts
  | t :: ts => t :: fillHere bodies ts

/-- The bodies of the texts that a line announces, and the lines below them. -/
def takeBodies? : List HereText → List Text → Option (List Word × List Text)
  | [], ls => some ([], ls)
  | h :: hs, ls => do
    let (body, ls) := hereLines h ls
    let w ← hereWord? h body
    let (ws, ls) ← takeBodies? hs ls
    return (w :: ws, ls)

/-- Reads the tokens of a script. The texts that are announced and those that were read are given
from the last to the first. The fuel is more than the length of the text. -/
def tokens? : Nat → Nat → List HereText → List Word → Text → Option (List Token × List Word)
  | 0, _, _, _, _ => none
  | fuel + 1, line, announced, bodies, s =>
    let first (t : Token) (announced : List HereText) (r : Text) :=
      (tokens? fuel line announced bodies r).map fun (ts, bs) => (t :: ts, bs)
    let target (stream : Nat) (d : Direction) (r : Text) : Option (List Token × List Word) :=
      match d with
      | .here => do
        let dropTabs := r.head? == some '\t'
        let (w, r) ← word? false (r.length + 1) (r.dropWhile fun c => c == ' ' || c == '\t')
        first (.redirect stream .here) (⟨stream, unquotedText w, dropTabs, hasQuotes w⟩ :: announced) r
      | d => first (.redirect stream d) announced r
    match s with
    | [] => some ([], bodies)
    | '\n' :: r => do
      let (ws, ls) ← takeBodies? announced.reverse (if announced.isEmpty then [] else Text.lines r)
      let used := if announced.isEmpty then 0 else (Text.lines r).length - ls.length
      let rest := if announced.isEmpty then r
        else ls.flatMap (· ++ ['\n'])
      let (ts, bs) ← tokens? fuel (line + 1 + used) [] (ws.reverse ++ bodies) rest
      return (.newline :: ts, bs)
    | c :: r =>
      if c = ' ' ∨ c = '\t' ∨ c = '\r' then tokens? fuel line announced bodies r
      else if c = '#' then tokens? fuel line announced bodies (r.dropWhile (· != '\n'))
      else if c = '\\' ∧ r.head? = some '\n' then
        tokens? fuel (line + 1) announced bodies (r.drop 1)
      else match redirection? s with
        | some (n, d, r) => target n d r
        | none =>
          match operator? s with
          | some (o, r) => first (.operator o) announced r
          | none =>
            match if c.isDigit then redirection? r else none with
            | some (_, d, r) => target (c.toNat - '0'.toNat) d r
            | none => do
              let (w, r) ← word? false (s.length + 1) s
              let used := (s.take (s.length - r.length)).count '\n'
              let (ts, bs) ← tokens? fuel (line + used) announced bodies r
              return (.word line w :: ts, bs)

/-- The tokens of a script. -/
def tokenize? (s : Text) : Option (List Token) :=
  (tokens? (2 * s.length + 2) 1 [] [] s).map fun (ts, bodies) => fillHere bodies.reverse ts

end Shell

end ElixirDiagnostics
