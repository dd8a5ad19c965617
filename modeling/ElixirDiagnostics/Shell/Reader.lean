import ElixirDiagnostics.Shell.Token

/-!
# Commands from tokens

Reads the commands of a script. A word is reserved only where a command can begin, and only if no
part of it is quoted. Lists are joined by line ends, semicolons and ampersands; what would run in
the background is run in its place.
-/

namespace ElixirDiagnostics

namespace Shell

/-- The operator or line end at which a command is over and another one can follow. -/
def isSeparator (t : Token) : Bool :=
  t == .newline || t == .operator [';'] || t == .operator ['&']

/-- The word at the start, if no part of it is quoted or has a meaning. -/
def leadingWord? : List Token → Option Text
  | .word _ w :: _ => plainText? w
  | _ => none

/-- Takes a reserved word. -/
def keyword? (k : String) : List Token → Option (List Token)
  | .word _ w :: ts => if plainText? w = some k.toList then some ts else none
  | _ => none

/-- Takes an operator. -/
def expect? (o : Text) : List Token → Option (List Token)
  | .operator p :: ts => if p = o then some ts else none
  | _ => none

/-- The reserved words that end a list of commands. -/
def closingWords : List Text :=
  ["then".toList, "elif".toList, "else".toList, "fi".toList, "do".toList, "done".toList,
    "esac".toList, ['\x7d']]

/-- Whether a list of commands ends here. -/
def closes (ts : List Token) : Bool :=
  match ts with
  | [] => true
  | .operator o :: _ => o == [')'] || o == [';', ';']
  | _ => (leadingWord? ts).any closingWords.contains

/-- Drops line ends. -/
def skipNewlines (ts : List Token) : List Token := ts.dropWhile (· == .newline)

/-- The character of a part that is one plain character. -/
def Piece.char? : Piece → Option Char
  | literal [c] false => some c
  | _ => none

/-- The name and the value of a word that is an assignment. -/
def assignment? (w : Word) : Option (Text × Word) :=
  let name := (w.takeWhile fun p => (p.char?).any isNameChar).filterMap Piece.char?
  match w.drop name.length with
  | p :: value =>
    if p.char? = some '=' ∧ (name.head?).any isNameStart then some (name, value) else none
  | [] => none

/-- Takes a redirection. -/
def redirect? : List Token → Option (Redirect × List Token)
  | .here n body :: ts => some (⟨n, .here, body⟩, ts)
  | .redirect n d :: .word _ w :: ts => some (⟨n, d, w⟩, ts)
  | _ => none

/-- What a simple command is made of. -/
structure SimpleParts where
  /-- The line of its first word. -/
  line : Option Nat := none
  /-- The assignments before its first word. -/
  assignments : List (Text × Word) := []
  /-- Its words. -/
  words : List Word := []
  /-- Its redirections. -/
  redirects : List Redirect := []

/-- Takes the words, assignments and redirections of a simple command. The fuel is more than the
number of tokens. -/
def simple? : Nat → SimpleParts → List Token → Option (Command × List Token)
  | 0, _, _ => none
  | fuel + 1, p, ts =>
    match ts with
    | .word n w :: r =>
      let p := { p with line := p.line.or n }
      match if p.words.isEmpty then assignment? w else none with
      | some a => simple? fuel { p with assignments := p.assignments ++ [a] } r
      | none => simple? fuel { p with words := p.words ++ [w] } r
    | _ =>
      match redirect? ts with
      | some (d, r) => simple? fuel { p with redirects := p.redirects ++ [d] } r
      | none =>
        if p.assignments.isEmpty && p.words.isEmpty && p.redirects.isEmpty then none
        else some (.simple (p.line.getD 1) p.assignments p.words p.redirects, ts)

/-- Takes the redirections that follow a command. -/
def redirects : Nat → List Redirect → List Token → List Redirect × List Token
  | 0, ds, ts => (ds, ts)
  | fuel + 1, ds, ts =>
    match redirect? ts with
    | some (d, r) => redirects fuel (ds ++ [d]) r
    | none => (ds, ts)

/-- Takes words up to something that is none. -/
def wordsOf : List Token → List Word × List Token
  | .word _ w :: ts => let (ws, r) := wordsOf ts; (w :: ws, r)
  | ts => ([], ts)

/-- The patterns of an arm, up to the bracket that ends them. -/
def patterns? : List Token → Option (List Word × List Token)
  | .word _ w :: .operator o :: ts =>
    if o = [')'] then some ([w], ts)
    else if o = ['|'] then (patterns? ts).map fun (ws, r) => (w :: ws, r)
    else none
  | _ => none

/-- The words that a loop goes through, if it names them, and what follows them. -/
def eachWords (ts : List Token) : Option (List Word) × List Token :=
  match keyword? "in" (skipNewlines ts) with
  | some r => let (ws, r) := wordsOf r; (some ws, r)
  | none => (none, ts)

/-- One command after another, without the ones that do nothing. -/
def Command.andThen : Command → Command → Command
  | c, skip => c
  | c, d => c.seq d

mutual

/-- Takes a list of commands. The fuel of this function and the next ones is more than a small
multiple of the number of tokens. -/
def list? : Nat → List Token → Option (Command × List Token)
  | 0, _ => none
  | fuel + 1, ts =>
    let ts := skipNewlines ts
    if closes ts then some (.skip, ts)
    else do
      let (c, ts) ← chain? fuel ts
      match ts with
      | [] => return (c, [])
      | t :: r =>
        if isSeparator t then do
          let (d, ts) ← list? fuel r
          return (c.andThen d, ts)
        else if closes ts then return (c, ts)
        else none

/-- Takes pipelines that depend on one another. -/
def chain? : Nat → List Token → Option (Command × List Token)
  | 0, _ => none
  | fuel + 1, ts => do
    let (c, ts) ← pipeline? fuel ts
    chainRest? fuel c ts

/-- Takes what depends on a pipeline. -/
def chainRest? : Nat → Command → List Token → Option (Command × List Token)
  | 0, _, _ => none
  | fuel + 1, c, ts =>
    match expect? ['&', '&'] ts, expect? ['|', '|'] ts with
    | some r, _ => do
      let (d, ts) ← pipeline? fuel (skipNewlines r)
      chainRest? fuel (c.both d) ts
    | none, some r => do
      let (d, ts) ← pipeline? fuel (skipNewlines r)
      chainRest? fuel (c.either d) ts
    | none, none => some (c, ts)

/-- Takes a pipeline. -/
def pipeline? : Nat → List Token → Option (Command × List Token)
  | 0, _ => none
  | fuel + 1, ts =>
    match keyword? "!" ts with
    | some r => (pipeline? fuel r).map fun (c, ts) => (c.negated, ts)
    | none => do
      let (c, ts) ← command? fuel ts
      match expect? ['|'] ts with
      | some r => do
        let (d, ts) ← pipeline? fuel (skipNewlines r)
        return (c.pipe d, ts)
      | none => return (c, ts)

/-- Takes a command with its redirections. -/
def command? : Nat → List Token → Option (Command × List Token)
  | 0, _ => none
  | fuel + 1, ts =>
    match compound? fuel ts with
    | some (some c, r) =>
      let (ds, r) := redirects fuel [] r
      some (if ds.isEmpty then c else c.redirected ds, r)
    | some (none, r) => simple? (r.length + 1) {} r
    | none => none

/-- Takes a command that holds others; with nothing where none begins. -/
def compound? : Nat → List Token → Option (Option Command × List Token)
  | 0, _ => none
  | fuel + 1, ts =>
    match ts with
    | .operator _ :: r => do
      if expect? ['('] ts = none then none
      let (c, r) ← list? fuel r
      return (some c.subshell, ← expect? [')'] r)
    | .word _ w :: .operator ['('] :: .operator [')'] :: r => do
      let name ← plainText? w
      let (c, r) ← command? fuel (skipNewlines r)
      return (some (.define name c), r)
    | .word _ _ :: r =>
      match (leadingWord? ts).map String.ofList with
      | some "if" => do
        let (c, r) ← choice? fuel r
        return (some c, r)
      | some "while" => do
        let (c, r) ← loop? fuel false r
        return (some c, r)
      | some "until" => do
        let (c, r) ← loop? fuel true r
        return (some c, r)
      | some "for" => do
        let name ← leadingWord? r
        let (ws, r) := eachWords (r.drop 1)
        let (c, r) ← body? fuel r
        return (some (.each name ws c), r)
      | some "case" => do
        let .word _ w :: r := r | none
        let (arms, r) ← arms? fuel (← keyword? "in" (skipNewlines r))
        return (some (.select w arms), r)
      | some "\x7b" => do
        let (c, r) ← list? fuel r
        return (some c, ← keyword? "\x7d" r)
      | _ => some (none, ts)
    | _ => some (none, ts)

/-- Takes a conditional after the word that begins it or goes on with it. -/
def choice? : Nat → List Token → Option (Command × List Token)
  | 0, _ => none
  | fuel + 1, ts => do
    let (test, ts) ← list? fuel ts
    let (yes, ts) ← list? fuel (← keyword? "then" ts)
    match keyword? "elif" ts, keyword? "else" ts with
    | some r, _ => do
      let (no, ts) ← choice? fuel r
      return (.choice test yes no, ts)
    | none, some r => do
      let (no, ts) ← list? fuel r
      return (.choice test yes no, ← keyword? "fi" ts)
    | none, none => return (.choice test yes .skip, ← keyword? "fi" ts)

/-- Takes a loop after the word that begins it. -/
def loop? : Nat → Bool → List Token → Option (Command × List Token)
  | 0, _, _ => none
  | fuel + 1, untilTrue, ts => do
    let (test, ts) ← list? fuel ts
    let (body, ts) ← body? fuel ts
    return (.loop untilTrue test body, ts)

/-- Takes the body of a loop. -/
def body? : Nat → List Token → Option (Command × List Token)
  | 0, _ => none
  | fuel + 1, ts => do
    let (c, ts) ← list? fuel (← keyword? "do" (ts.dropWhile isSeparator))
    return (c, ← keyword? "done" ts)

/-- Takes the arms of a choice by patterns, with the word that ends them. -/
def arms? : Nat → List Token → Option (List (List Word × Command) × List Token)
  | 0, _ => none
  | fuel + 1, ts =>
    let ts := skipNewlines ts
    match keyword? "esac" ts with
    | some r => some ([], r)
    | none => do
      let (ws, ts) ← patterns? ((expect? ['('] ts).getD ts)
      let (c, ts) ← list? fuel ts
      let (arms, ts) ← arms? fuel ((expect? [';', ';'] ts).getD ts)
      return ((ws, c) :: arms, ts)

end

/-- Why a text is no script. -/
inductive SyntaxError where
  /-- Something that was opened is not closed. -/
  | unterminated
  /-- Something stands where nothing like it can. -/
  | unexpected (s : Text)
  /-- The script ends too early. -/
  | unfinished
  deriving DecidableEq, Repr

/-- What is said about it. -/
def SyntaxError.message : SyntaxError → Text
  | unterminated => "Unterminated quoted string".toList
  | unexpected s => '"' :: s ++ "\" unexpected".toList
  | unfinished => "end of file unexpected".toList

/-- The text of a token. -/
def Token.source : Token → Text
  | word _ w => unquotedText w
  | operator s => s
  | newline => "newline".toList
  | redirect _ _ | here _ _ => "redirection".toList

/-- Reads a script. -/
def Command.read (s : Text) : Except SyntaxError Command :=
  match tokenize? s with
  | none => .error .unterminated
  | some ts =>
    match list? (8 * ts.length + 8) ts with
    | some (c, []) => .ok c
    | some (_, t :: _) => .error (.unexpected t.source)
    | none => .error .unfinished

end Shell

end ElixirDiagnostics
