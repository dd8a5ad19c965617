import ElixirDiagnostics.Extraction.Run

/-!
# The log of an extraction

Each event of an extraction has one record in the log. Steps are told in detail; a diagnostic that
is dropped because it belongs to another file is told as a decision.
-/

namespace ElixirDiagnostics

namespace Extraction

/-- A line number as the log tells it, present or not. -/
def lineWord : Option Nat → Text
  | none => "None".toList
  | some n => "Some(".toList ++ Text.ofNat n ++ [')']

/-- What the log says about a sighting. -/
def sightingText (m : Sighting) : Text :=
  "tag=".toList ++ m.tag.word ++ " lines=".toList ++ Text.ofNat m.start ++ "..".toList ++
    Text.ofNat m.stop ++ " file=".toList ++ m.file ++ " line=".toList ++ lineWord m.line?

/-- The log record of an event. -/
def Event.record : Event → LogRecord
  | matched m => ⟨.trace, "extract -> MATCHED ".toList ++ sightingText m⟩
  | accepted d => ⟨.trace, "extract -> ACCEPTED ".toList ++ d.display⟩
  | rejected d => ⟨.trace, "extract -> REJECTED ".toList ++ d.display⟩
  | dropping d inspected =>
    ⟨.debug, "dropping diagnostic for ".toList ++ d.file ++ " (inspecting ".toList ++ inspected ++
      "): ".toList ++ d.display⟩
  | scanning n => ⟨.trace, "extract -> SCANNING at line ".toList ++ Text.ofNat n⟩
  | done n => ⟨.trace, "extract -> DONE at line ".toList ++ Text.ofNat n⟩

end Extraction

end ElixirDiagnostics
