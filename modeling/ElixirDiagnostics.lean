import ElixirDiagnostics.CommandLine.InMemory
import ElixirDiagnostics.CommandLine.Session
import ElixirDiagnostics.Extraction.Event
import ElixirDiagnostics.Extraction.Stage
import ElixirDiagnostics.Host.Machine
import ElixirDiagnostics.Json.Reader
import ElixirDiagnostics.Main
import ElixirDiagnostics.Pattern.Reader
import ElixirDiagnostics.Proofs.Extraction.Cut
import ElixirDiagnostics.Proofs.Extraction.Scan
import ElixirDiagnostics.Proofs.Extraction.Stage
import ElixirDiagnostics.Proofs.Location
import ElixirDiagnostics.Proofs.Shape.Opening
import ElixirDiagnostics.Proofs.Shape.Priority
import ElixirDiagnostics.Proofs.Text.Cut
import ElixirDiagnostics.Report.Format
import ElixirDiagnostics.Settings.Lookup
import ElixirDiagnostics.Shell.Run
import ElixirDiagnostics.Toml.Document
import ElixirDiagnostics.Proofs.Path.Walk
import ElixirDiagnostics.Proofs.Inspection
import ElixirDiagnostics.Proofs.Path.Ancestors
import ElixirDiagnostics.Proofs.Settings.Lookup
import ElixirDiagnostics.Proofs.Location.Written
import ElixirDiagnostics.Proofs.Shape.Written
import ElixirDiagnostics.Proofs.Extraction.Located
import ElixirDiagnostics.Proofs.Shape.Silent
import ElixirDiagnostics.Proofs.Extraction.Once
import ElixirDiagnostics.Proofs.Extraction.Dressed
import ElixirDiagnostics.Proofs.CommandLine.Frame
import ElixirDiagnostics.Proofs.CommandLine.Piped
import ElixirDiagnostics.Proofs.Extraction.Announced
import ElixirDiagnostics.Proofs.Extraction.Traceable
import ElixirDiagnostics.Proofs.Extraction.Worded
import ElixirDiagnostics.Proofs.Shape.Anchored
import ElixirDiagnostics.Proofs.Extraction.Reread
import ElixirDiagnostics.Proofs.Shape.Lone
import ElixirDiagnostics.Proofs.Shape.Repeated
import ElixirDiagnostics.Proofs.Shape.Placed
import ElixirDiagnostics.Proofs.Shape.Library
import ElixirDiagnostics.Proofs.Command.IncludeDirs
import ElixirDiagnostics.Proofs.Path.Canonical
import ElixirDiagnostics.Proofs.Trace.Frame
import ElixirDiagnostics.Proofs.Extraction.Log
import ElixirDiagnostics.Proofs.Report.Colour
import ElixirDiagnostics.Proofs.Report.Json
import ElixirDiagnostics.Proofs.Command.Override
import ElixirDiagnostics.Proofs.Extraction.Streams
