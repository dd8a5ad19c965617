import ElixirDiagnostics.Command.Arguments
import ElixirDiagnostics.CommandLine.Session

/-!
# Help

What a session answers to a command line that asks for help or cannot be understood.
-/

namespace ElixirDiagnostics

namespace CommandLine

/-- The lines of the help in full. -/
def fullHelp : List String :=
  [ "Compile an Elixir file and report the diagnostics that belong to it.",
    "",
    "Usage: elixirc-lint [OPTIONS] [FILE] [-- <EXTRA>...]",
    "",
    "Arguments:",
    "  [FILE]",
    "          The Elixir source file being edited.",
    "",
    "  [EXTRA]...",
    "          Additional arguments passed to the compiler.",
    "",
    "Options:",
    "  -v, --version",
    "          Print version and feature flags in JSON format.",
    "",
    "  -C, --cwd <CWD>",
    "          Directory the compiler runs in (default: current directory, or the mix project root with --mix).",
    "",
    "  -I, --include-dir <INCLUDE_DIRS>",
    "          Extra source directory whose *.ex files are required first. Repeatable.",
    "",
    "      --pa <PA>",
    "          Extra code path passed to the compiler with -pa. Repeatable.",
    "",
    "  -m, --mix",
    "          Run \x60mix compile\x60 instead of \x60elixirc\x60.",
    "",
    "  -c, --config <CONFIG>",
    "          Settings file (default: nearest .elixirc-lint.toml).",
    "",
    "      --executable <EXECUTABLE>",
    "          Compiler program to run instead of elixirc / mix.",
    "",
    "      --anchor <ANCHOR>",
    "          Which trace frame a traced compile error is attributed to.",
    "",
    "          Possible values:",
    "          - banner-file:        The first frame that names the file from the compilation-error banner",
    "          - first-source-frame: The first frame that is not a library or function-only frame",
    "",
    "      --stdin",
    "          Read compiler output from stdin instead of running the compiler.",
    "",
    "      --format <FORMAT>",
    "          Output format.",
    "",
    "          Possible values:",
    "          - text: \x60file:line: severity: message\x60, one per line",
    "          - json: A JSON array of \x60\x7bfile, line, severity, message\x7d\x60 objects",
    "          ",
    "          [default: text]",
    "",
    "      --no-color",
    "          Disable coloured output.",
    "",
    "  -h, --help",
    "          Print help (see a summary with '-h')" ]

/-- The lines of the help in brief. -/
def briefHelp : List String :=
  [ "Compile an Elixir file and report the diagnostics that belong to it.",
    "",
    "Usage: elixirc-lint [OPTIONS] [FILE] [-- <EXTRA>...]",
    "",
    "Arguments:",
    "  [FILE]      The Elixir source file being edited.",
    "  [EXTRA]...  Additional arguments passed to the compiler.",
    "",
    "Options:",
    "  -v, --version                     Print version and feature flags in JSON format.",
    "  -C, --cwd <CWD>                   Directory the compiler runs in (default: current directory, or the mix project root with --mix).",
    "  -I, --include-dir <INCLUDE_DIRS>  Extra source directory whose *.ex files are required first. Repeatable.",
    "      --pa <PA>                     Extra code path passed to the compiler with -pa. Repeatable.",
    "  -m, --mix                         Run \x60mix compile\x60 instead of \x60elixirc\x60.",
    "  -c, --config <CONFIG>             Settings file (default: nearest .elixirc-lint.toml).",
    "      --executable <EXECUTABLE>     Compiler program to run instead of elixirc / mix.",
    "      --anchor <ANCHOR>             Which trace frame a traced compile error is attributed to. [possible values: banner-file, first-source-frame]",
    "      --stdin                       Read compiler output from stdin instead of running the compiler.",
    "      --format <FORMAT>             Output format. [default: text] [possible values: text, json]",
    "      --no-color                    Disable coloured output.",
    "  -h, --help                        Print help (see more with '--help')" ]

/-- What is said about a command line that cannot be understood. -/
def usageMessage : Command.UsageError → Text
  | .missingFile => "no source file given".toList
  | .unknown => "unexpected argument".toList
  | .invalidValue => "missing or invalid value".toList
  | .repeated => "option given more than once".toList
  | .unexpectedValue => "option takes no value".toList
  | .help _ => []

/-- The end of a session whose command line asks for help or cannot be understood. -/
def Ending.ofUsage : Command.UsageError → Ending
  | .help full => ⟨0, textOfLines (if full then fullHelp else briefHelp), []⟩
  | e => ⟨2, [], "error: ".toList ++ usageMessage e ++
      "\n\nFor more information, try '--help'.\n".toList⟩

end CommandLine

end ElixirDiagnostics
