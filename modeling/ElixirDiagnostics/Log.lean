import ElixirDiagnostics.Text.Basic

/-!
# Log records

What the linter tells about its own work. Each part of the library has its own events; here is only
the form that all of them take in a log.
-/

namespace ElixirDiagnostics

/-- How much detail a log record gives. -/
inductive LogLevel where
  /-- Single steps. -/
  | trace
  /-- Decisions. -/
  | debug
  deriving DecidableEq, Repr

/-- The name of a level in the log. -/
def LogLevel.word : LogLevel → Text
  | trace => "TRACE".toList
  | debug => "DEBUG".toList

/-- One record of a log. -/
structure LogRecord where
  /-- How much detail it gives. -/
  level : LogLevel
  /-- What it says. -/
  text : Text
  deriving DecidableEq, Repr

/-- A record on one line, its level first. -/
def LogRecord.display (r : LogRecord) : Text := r.level.word ++ ' ' :: r.text

end ElixirDiagnostics
