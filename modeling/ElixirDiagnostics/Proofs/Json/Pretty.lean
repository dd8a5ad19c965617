import ElixirDiagnostics.Proofs.Json.Standard

/-!
# Values in the form of reports

The form in which reports are written is standard JSON at every level of indentation, so a value
that is written in it is read back. The only values for which this could fail are decimals that are
not kept in a standard spelling.
-/

namespace ElixirDiagnostics

namespace Json

/-- A value of which all decimals are kept in a standard spelling. -/
inductive IsStandard : Json → Prop where
  /-- The null value. -/
  | null : IsStandard .null
  /-- A truth value. -/
  | boolean (b : Bool) : IsStandard (.boolean b)
  /-- A whole number. -/
  | integer (n : Int) : IsStandard (.integer n)
  /-- A decimal that is kept as it is written. -/
  | decimal {s : Text} (h : IsNumber (.decimal s) s) : IsStandard (.decimal s)
  /-- A string. -/
  | string (s : Text) : IsStandard (.string s)
  /-- An array of such values. -/
  | array {vs : List Json} (h : ∀ v ∈ vs, IsStandard v) : IsStandard (.array vs)
  /-- An object with such values. -/
  | object {ms : List (Text × Json)} (h : ∀ m ∈ ms, IsStandard m.2) : IsStandard (.object ms)

variable {k : Text} {v : Json} {vs : List Json} {ms : List (Text × Json)} {level : Nat}

/-- Nothing is a gap. -/
theorem isGap_nil : IsGap [] := nofun

/-- The start of a line is white space. -/
theorem isGap_newLine (level : Nat) : IsGap (newLine level) := by
  intro c hc
  rcases List.mem_cons.1 hc with rfl | hc
  · decide
  · rw [List.eq_of_mem_replicate hc]
    decide

/-- Elements are written as those of an array, if each is written as a value. -/
theorem isElements_pretty (h : ∀ u ∈ v :: vs, IsValue u (pretty level u)) (outer : Nat) :
    IsElements (v :: vs)
      (pretty level v ++ (pretty.elements level vs ++ (newLine outer ++ [']']))) := by
  have hv := h v List.mem_cons_self
  induction vs generalizing v with
  | nil => exact .last hv (isGap_newLine outer)
  | cons u vs ih =>
    have hrest := fun w hw => h w (List.mem_cons_of_mem v hw)
    have helements := ih hrest (hrest u List.mem_cons_self)
    simpa [pretty.elements] using
      IsElements.cons hv isGap_nil (isGap_newLine level) helements

/-- A member is written as one, if its value is written as a value. -/
theorem isMember_pretty (h : IsValue v (pretty level v)) :
    IsMember (k, v) (quote k ++ (": ".toList ++ pretty level v)) := by
  have hblank : IsGap [' '] := by simp [IsGap, isGapChar]
  simpa [quote] using IsMember.mk (isBody_flatMap k) isGap_nil hblank h

/-- Members are written as those of an object, if each value is written as a value. -/
theorem isMembers_pretty (h : ∀ m ∈ (k, v) :: ms, IsValue m.2 (pretty level m.2)) (outer : Nat) :
    IsMembers ((k, v) :: ms)
      (quote k ++ (": ".toList ++ (pretty level v ++
        (pretty.members level ms ++ (newLine outer ++ ['\x7d']))))) := by
  have hmember : IsMember (k, v) (quote k ++ (": ".toList ++ pretty level v)) :=
    isMember_pretty (h _ List.mem_cons_self)
  induction ms generalizing k v with
  | nil => simpa [pretty.members] using IsMembers.last hmember (isGap_newLine outer)
  | cons m ms ih =>
    obtain ⟨l, u⟩ := m
    have hrest := fun n hn => h n (List.mem_cons_of_mem _ hn)
    have hmembers := ih hrest (isMember_pretty (hrest _ List.mem_cons_self))
    simpa [pretty.members] using
      IsMembers.cons hmember isGap_nil (isGap_newLine level) hmembers

/-- A value is written as standard JSON at every level. -/
theorem isValue_pretty (h : IsStandard v) (level : Nat) : IsValue v (pretty level v) := by
  induction h generalizing level with
  | null => exact .null
  | boolean b =>
    cases b with
    | false => exact .falseValue
    | true => exact .trueValue
  | integer n => exact .number (.integer n)
  | decimal h => exact .number h
  | string s => exact .string (isBody_flatMap s)
  | @array vs _ ih =>
    cases vs with
    | nil => exact .noElements isGap_nil
    | cons v vs =>
      have helements := isElements_pretty (fun u hu => ih u hu (level + 1)) level
      simpa [pretty] using IsValue.array (isGap_newLine (level + 1)) helements
  | @object ms _ ih =>
    cases ms with
    | nil => exact .noMembers isGap_nil
    | cons m ms =>
      obtain ⟨k, v⟩ := m
      have hmembers := isMembers_pretty (fun n hn => ih n hn (level + 1)) level
      simpa [pretty] using IsValue.object (isGap_newLine (level + 1)) hmembers

/-- So its form in reports is a text of the value. -/
theorem isDocument_pretty (h : IsStandard v) : IsDocument v (pretty 0 v) := by
  have hdocument := IsDocument.mk isGap_nil (isValue_pretty h 0) isGap_nil
  rwa [List.nil_append, List.append_nil] at hdocument

end Json

end ElixirDiagnostics
