import ElixirDiagnostics.CommandLine.Help
import ElixirDiagnostics.Pattern.Reader
import ElixirDiagnostics.Settings.Document

/-!
# The readers of the program

How the program reads its command line, settings and patterns.
-/

namespace ElixirDiagnostics

namespace CommandLine

/-- The readers of the program: settings are TOML, and patterns are regular expressions. -/
def Readers.standard : Readers where
  options words := (Command.Options.read words).mapError .ofUsage
  settings := Settings.read?
  pattern := Pattern.reader

end CommandLine

end ElixirDiagnostics
