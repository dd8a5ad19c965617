import ElixirDiagnostics.Text.Basic

/-!
# Shell scripts

A compiler is often a shell script that wraps the real one. This is the part of the shell language
that such scripts are written in: simple commands with their words, assignments and redirections,
lists, pipelines, conditions, loops, choices and functions. What a command substitution runs is kept
as text and read when it is run.
-/

namespace ElixirDiagnostics

namespace Shell

/-- A part of a word. What stands in double quotes is not split into several words. -/
inductive Piece where
  /-- Characters that stand for themselves. -/
  | literal (s : Text) (quoted : Bool)
  /-- The value of a parameter, after what an operator makes of it. -/
  | parameter (name operator operand : Text) (quoted : Bool)
  /-- The output of a script. -/
  | command (script : Text) (quoted : Bool)
  /-- The value of an expression. -/
  | arithmetic (expression : Text) (quoted : Bool)
  deriving DecidableEq, Repr

/-- A word, as its parts. -/
abbrev Word := List Piece

/-- What a redirection does. -/
inductive Direction where
  /-- Read from a file. -/
  | input
  /-- Read what stands in the script. -/
  | here
  /-- Write to a file. -/
  | output
  /-- Write to the end of a file. -/
  | append
  /-- Write where another stream goes. -/
  | duplicate
  deriving DecidableEq, Repr

/-- A redirection of a stream. -/
structure Redirect where
  /-- The number of the stream. -/
  stream : Nat
  /-- What is done with it. -/
  direction : Direction
  /-- The file, the number of the other stream, or what is read. -/
  target : Word
  deriving DecidableEq, Repr

/-- A command. -/
inductive Command where
  /-- No command. -/
  | skip
  /-- Assignments and the words of one command, with the line it stands on. -/
  | simple (line : Nat) (assignments : List (Text × Word)) (words : List Word)
      (redirects : List Redirect)
  /-- One command after the other. -/
  | seq (a b : Command)
  /-- The second command if the first one succeeds. -/
  | both (a b : Command)
  /-- The second command if the first one fails. -/
  | either (a b : Command)
  /-- A command that succeeds if another one fails. -/
  | negated (a : Command)
  /-- Two commands, where the second one reads what the first one writes. -/
  | pipe (a b : Command)
  /-- One of two commands, as a test turns out. -/
  | choice (test yes no : Command)
  /-- A command again and again, as long as a test succeeds, or until it does. -/
  | loop (untilTrue : Bool) (test body : Command)
  /-- A command for each of some words, or for each argument. -/
  | each (name : Text) (words : Option (List Word)) (body : Command)
  /-- The first command one of whose patterns fits a word. -/
  | select (word : Word) (arms : List (List Word × Command))
  /-- A command with redirections. -/
  | redirected (a : Command) (redirects : List Redirect)
  /-- A command that leaves no trace in the shell but its output. -/
  | subshell (a : Command)
  /-- The definition of a function. -/
  | define (name : Text) (body : Command)
  deriving Repr

end Shell

end ElixirDiagnostics
