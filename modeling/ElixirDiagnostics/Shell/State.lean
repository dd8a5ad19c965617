import ElixirDiagnostics.Host.FileTree
import ElixirDiagnostics.Shell.Arithmetic
import ElixirDiagnostics.Shell.Syntax

/-!
# States of a shell

What a running program has: a file tree, a directory, its input, and for each of its streams where
it goes. A shell has variables, arguments, functions and the status of its last command besides.
What is written goes into one record, marked with the stream it was written to, so that streams can
be told apart afterwards.
-/

namespace ElixirDiagnostics

namespace Shell

open Host

/-- Where a stream goes. -/
inductive Sink where
  /-- Into the record, under a mark: 1 for output, 2 for errors, more for what is captured. -/
  | record (mark : Nat)
  /-- To the end of a file. -/
  | file (place : Names)
  /-- Nowhere. -/
  | nowhere
  deriving DecidableEq, Repr

/-- How a program goes on. -/
inductive Control where
  /-- With its next command. -/
  | running
  /-- It leaves a number of loops. -/
  | broken (loops : Nat)
  /-- It leaves all but one of a number of loops and goes on with that one. -/
  | continued (loops : Nat)
  /-- It leaves a function. -/
  | returned
  /-- It is over. -/
  | exited
  /-- It was killed by a signal. -/
  | killed (signal : Nat)
  deriving DecidableEq, Repr

/-- The state of a program, and of a shell in particular. -/
structure State where
  /-- All files. -/
  tree : FileTree
  /-- The directory it is in. -/
  dir : Path
  /-- The name it goes by. -/
  name : Text
  /-- Its number. -/
  number : Nat := 2
  /-- Its arguments. -/
  arguments : List Text := []
  /-- The values of its variables. -/
  values : Variables := []
  /-- The names of those variables that other programs get. -/
  exported : List Text := []
  /-- Its functions. -/
  functions : List (Text × Command) := []
  /-- The line of the command that it runs; none if it is no shell. -/
  line : Option Nat := none
  /-- Whether a command that fails is the last one. -/
  strict : Bool := false
  /-- Whether the command that it runs is a test, which may fail. -/
  testing : Bool := false
  /-- The status of its last command. -/
  status : Nat := 0
  /-- How it goes on. -/
  control : Control := .running
  /-- What is left of its input. -/
  input : List UInt8 := []
  /-- Where its streams go. -/
  sinks : List (Nat × Sink) := [(1, .record 1), (2, .record 2)]
  /-- The record of what was written, the newest first. -/
  written : List (Nat × List UInt8) := []
  /-- The last mark for captured output. -/
  captures : Nat := 2

namespace State

/-- Whether it goes on with its next command. -/
def isRunning (st : State) : Bool := st.control == .running

/-- Writes bytes to a stream. -/
def write (st : State) (stream : Nat) (bytes : List UInt8) : State :=
  match st.sinks.lookup stream with
  | some (.record mark) => { st with written := (mark, bytes) :: st.written }
  | some (.file place) =>
    match st.tree.node? place with
    | some (.file content runnable) =>
      { st with tree := st.tree.put place (.file (content ++ bytes) runnable) }
    | _ => st
  | _ => st

/-- Writes text to the output. -/
def say (st : State) (s : Text) : State := st.write 1 (Text.Utf8.encode s)

/-- Ends a command with a status. -/
def finish (st : State) (status : Nat) : State := { st with status := status }

/-- Ends a command with the status of a test. -/
def verdict (st : State) (b : Bool) : State := st.finish (if b then 0 else 1)

/-- What a message begins with: the name of the program, and the line if it is a shell. -/
def messageStart (st : State) : Text :=
  st.name ++ ": ".toList ++ ((st.line.map fun n => Text.ofNat n ++ ": ".toList).getD [])

/-- Complains, and ends a command with a status. -/
def complain (st : State) (message : Text) (status : Nat) : State :=
  (st.write 2 (Text.Utf8.encode (st.messageStart ++ message ++ ['\n']))).finish status

/-- Complains, and is over with a status. -/
def abort (st : State) (message : Text) (status : Nat) : State :=
  { st.complain message status with control := .exited }

/-- What was written under a mark. -/
def recorded (st : State) (mark : Nat) : List UInt8 :=
  (st.written.reverse.filter (·.1 == mark)).flatMap (·.2)

/-- Opens a new mark and lets the output go there. -/
def beginCapture (st : State) : State :=
  { st with
    captures := st.captures + 1
    sinks := (1, .record (st.captures + 1)) :: st.sinks }

/-- What was written under a mark, and the state without it. -/
def takeCapture (st : State) (mark : Nat) : List UInt8 × State :=
  (st.recorded mark, { st with written := st.written.filter (·.1 != mark) })

/-- The state after something that left no trace in a shell but its output, its status and what it
did to files. -/
def rejoin (st after : State) : State :=
  { st with
    tree := after.tree
    input := after.input
    written := after.written
    captures := after.captures
    status := after.status
    control := match after.control with
      | .killed signal => .killed signal
      | _ => st.control }

/-- The value of a variable. -/
def value? (st : State) (x : Text) : Option Text := st.values.lookup x

/-- Gives a variable a value. -/
def assign (st : State) (x : Text) (value : Text) : State :=
  { st with values := (x, value) :: st.values.filter (·.1 != x) }

/-- The path of a place seen from its directory. -/
def pathOf (st : State) (p : Path) : Path := if p.isEmpty then p else Path.join st.dir p

/-- The names of signals that kill, with their numbers. -/
def signalNames : List (Text × Nat) :=
  [("HUP", 1), ("INT", 2), ("QUIT", 3), ("ILL", 4), ("TRAP", 5), ("ABRT", 6), ("BUS", 7),
    ("FPE", 8), ("KILL", 9), ("USR1", 10), ("SEGV", 11), ("USR2", 12), ("PIPE", 13), ("ALRM", 14),
    ("TERM", 15)].map fun (s, n) => (s.toList, n)

/-- What a shell says when a program that it ran was killed. -/
def signalText? (signal : Nat) : Option Text :=
  ([(1, "Hangup"), (3, "Quit"), (4, "Illegal instruction"), (6, "Aborted"), (7, "Bus error"),
    (8, "Floating point exception"), (9, "Killed"), (10, "User defined signal 1"),
    (11, "Segmentation fault"), (12, "User defined signal 2"), (14, "Alarm clock"),
    (15, "Terminated")].lookup signal).map String.toList

end State

end Shell

end ElixirDiagnostics
