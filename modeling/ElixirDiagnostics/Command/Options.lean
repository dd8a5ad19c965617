import ElixirDiagnostics.Path.Basic
import ElixirDiagnostics.Report.Format
import ElixirDiagnostics.Trace.Frame

/-!
# Command line options

What can be asked for on the command line. How its words are read is no part of this.
-/

namespace ElixirDiagnostics

namespace Command

/-- What is asked for on a command line. -/
structure Options where
  /-- Show the version and nothing else. -/
  version : Bool := false
  /-- The directory that the compiler runs in. -/
  cwd : Option Path := none
  /-- Further directories whose sources are required. -/
  includeDirs : List Path := []
  /-- Further code paths. -/
  codePaths : List Path := []
  /-- Compile the whole project. -/
  mix : Bool := false
  /-- The settings file. -/
  config : Option Path := none
  /-- The compiler program. -/
  executable : Option Text := none
  /-- The frame that traced errors are attributed to. -/
  anchor : Option Trace.Anchor := none
  /-- Read the compiler's output instead of running it. -/
  stdin : Bool := false
  /-- How the report is written, if it is said. -/
  format : Option Report.Format := none
  /-- Write the report without colour. -/
  noColour : Bool := false
  /-- The inspected file. -/
  file : Option Path := none
  /-- Further arguments of the compiler. -/
  extra : List Text := []
  deriving DecidableEq, Repr

/-- The form of the report; text if nothing is said. -/
def Options.reportFormat (o : Options) : Report.Format := o.format.getD .text

end Command

end ElixirDiagnostics
