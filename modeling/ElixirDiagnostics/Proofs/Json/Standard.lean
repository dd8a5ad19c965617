import ElixirDiagnostics.Proofs.Json.Number
import ElixirDiagnostics.Proofs.Json.Quoted
import Mathlib.Data.List.TakeWhile

/-!
# Standard JSON texts

A value has many texts: white space can stand around it and between its parts, and its strings have
many spellings. All of them are read as that value. So whoever writes standard JSON can rely on what
the reader makes of it.
-/

namespace ElixirDiagnostics

namespace Json

open Text

/-- The characters of white space. -/
def isGapChar (c : Char) : Bool := c == ' ' || c == '\t' || c == '\n' || c == '\r'

/-- White space between the parts of a text, or nothing. -/
def IsGap (g : Text) : Prop := ∀ c ∈ g, isGapChar c = true

mutual
/-- The texts of a value, without white space around them. -/
inductive IsValue : Json → Text → Prop where
  /-- The null value. -/
  | null : IsValue .null "null".toList
  /-- The true value. -/
  | trueValue : IsValue (.boolean true) "true".toList
  /-- The false value. -/
  | falseValue : IsValue (.boolean false) "false".toList
  /-- A number. -/
  | number {j : Json} {w : Text} (h : IsNumber j w) : IsValue j w
  /-- A string. -/
  | string {s b : Text} (h : IsBody s b) : IsValue (.string s) ('"' :: (b ++ ['"']))
  /-- An array without elements. -/
  | noElements {g : Text} (hg : IsGap g) : IsValue (.array []) ('[' :: (g ++ [']']))
  /-- An array with elements. -/
  | array {vs : List Json} {g w : Text} (hg : IsGap g) (h : IsElements vs w) :
      IsValue (.array vs) ('[' :: (g ++ w))
  /-- An object without members. -/
  | noMembers {g : Text} (hg : IsGap g) : IsValue (.object []) ('\x7b' :: (g ++ ['\x7d']))
  /-- An object with members. -/
  | object {ms : List (Text × Json)} {g w : Text} (hg : IsGap g) (h : IsMembers ms w) :
      IsValue (.object ms) ('\x7b' :: (g ++ w))

/-- The texts of the elements of an array, with the closing bracket. -/
inductive IsElements : List Json → Text → Prop where
  /-- The last element. -/
  | last {v : Json} {w g : Text} (hv : IsValue v w) (hg : IsGap g) :
      IsElements [v] (w ++ (g ++ [']']))
  /-- An element before others. -/
  | cons {v : Json} {vs : List Json} {w g g' rest : Text} (hv : IsValue v w) (hg : IsGap g)
      (hg' : IsGap g') (h : IsElements vs rest) :
      IsElements (v :: vs) (w ++ (g ++ ',' :: (g' ++ rest)))

/-- The texts of the members of an object, with the closing brace. -/
inductive IsMembers : List (Text × Json) → Text → Prop where
  /-- The last member. -/
  | last {m : Text × Json} {w g : Text} (hm : IsMember m w) (hg : IsGap g) :
      IsMembers [m] (w ++ (g ++ ['\x7d']))
  /-- A member before others. -/
  | cons {m : Text × Json} {ms : List (Text × Json)} {w g g' rest : Text} (hm : IsMember m w)
      (hg : IsGap g) (hg' : IsGap g') (h : IsMembers ms rest) :
      IsMembers (m :: ms) (w ++ (g ++ ',' :: (g' ++ rest)))

/-- The texts of a member of an object. -/
inductive IsMember : Text × Json → Text → Prop where
  /-- The name, a colon and the value. -/
  | mk {k b w g g' : Text} {v : Json} (hk : IsBody k b) (hg : IsGap g) (hg' : IsGap g')
      (hv : IsValue v w) : IsMember (k, v) ('"' :: (b ++ '"' :: (g ++ ':' :: (g' ++ w))))
end

/-- The texts of a value, with white space around them. -/
inductive IsDocument : Json → Text → Prop where
  /-- The value between two gaps. -/
  | mk {j : Json} {g w g' : Text} (hg : IsGap g) (h : IsValue j w) (hg' : IsGap g') :
      IsDocument j (g ++ (w ++ g'))

variable {j v : Json} {vs : List Json} {m : Text × Json} {ms : List (Text × Json)}
  {g r s t w : Text} {c : Char} {fuel : Nat}

/-- White space is dropped up to a character of another kind. -/
theorem skipSpace_append (hg : IsGap g) (hc : isGapChar c = false) (r : Text) :
    skipSpace (g ++ c :: r) = c :: r := by
  have hstop : ¬isGapChar c = true := by simp [hc]
  exact (List.dropWhile_append_of_pos hg).trans (List.dropWhile_cons_of_neg hstop)

/-- White space alone is dropped. -/
theorem skipSpace_of_isGap (hg : IsGap g) : skipSpace g = [] :=
  List.dropWhile_eq_nil_iff.2 hg

/-- White space ends a number, if what stands behind it does. -/
theorem endsNumber_append (hg : IsGap g) (hr : EndsNumber r) : EndsNumber (g ++ r) := by
  cases g with
  | nil => exact hr
  | cons d g =>
    intro c hc
    obtain rfl : d = c := by simpa using hc
    have hd := hg d List.mem_cons_self
    simp only [isGapChar, Bool.or_eq_true, beq_iff_eq] at hd
    rcases hd with ((rfl | rfl) | rfl) | rfl <;> decide

/-- A mark behind white space ends a number, and it is found there. -/
theorem mark_behind_gap (hg : IsGap g) (hc : isGapChar c = false ∧ isNumberChar c = false)
    (r : Text) : EndsNumber (g ++ c :: r) ∧ skipSpace (g ++ c :: r) = c :: r := by
  have hend : EndsNumber (c :: r) := by
    intro d hd
    obtain rfl : c = d := by simpa using hd
    exact hc.2
  exact ⟨endsNumber_append hg hend, skipSpace_append hg hc.1 r⟩

/-- A text that begins with a visible character, and not with the one that closes an array. -/
def Opens (w : Text) : Prop := ∃ c t, w = c :: t ∧ isGapChar c = false ∧ c ≠ ']'

/-- White space is dropped up to such a text. -/
theorem Opens.skipSpace_append (h : Opens w) (hg : IsGap g) (r : Text) :
    skipSpace (g ++ (w ++ r)) = w ++ r := by
  obtain ⟨c, t, rfl, hc, -⟩ := h
  exact Json.skipSpace_append hg hc (t ++ r)

/-- What begins such a text begins what goes on behind it. -/
theorem Opens.append (h : Opens w) (r : Text) : Opens (w ++ r) := by
  obtain ⟨c, t, rfl, hc⟩ := h
  exact ⟨c, t ++ r, rfl, hc⟩

/-- A value is such a text. -/
theorem IsValue.opens (h : IsValue j w) : Opens w := by
  cases h with
  | number h =>
    obtain ⟨c, t, rfl, hne⟩ := h.exists_cons_ne
    exact ⟨c, t, rfl, by simp [isGapChar, hne]⟩
  | _ => exact ⟨_, _, rfl, by decide⟩

/-- So are the elements of an array. -/
theorem IsElements.opens (h : IsElements vs w) : Opens w := by
  cases h with
  | last hv => exact hv.opens.append _
  | cons hv => exact hv.opens.append _

/-- The members of an object begin with the quote of a name. -/
theorem IsMembers.exists_cons (h : IsMembers ms w) : ∃ t, w = '"' :: t := by
  cases h with
  | last hm =>
    cases hm
    exact ⟨_, rfl⟩
  | cons hm =>
    cases hm
    exact ⟨_, rfl⟩

/-- So they are such a text as well. -/
theorem IsMembers.opens (h : IsMembers ms w) : Opens w := by
  obtain ⟨t, rfl⟩ := h.exists_cons
  exact ⟨'"', t, rfl, by decide⟩

/-- A number is read. -/
theorem value?_of_isNumber (h : IsNumber j w) (hr : EndsNumber r) (fuel : Nat) :
    value? (fuel + 1) (w ++ r) = some (j, r) := by
  obtain ⟨c, t, rfl, hne⟩ := h.exists_cons_ne
  have hread := number?_of_isNumber h hr
  have hsymm : ∀ d : Char, d ≠ '-' → d.isDigit = false → d ≠ c := fun d hminus hdigit =>
    (hne d hminus hdigit).symm
  rw [List.cons_append] at hread ⊢
  simp [value?, after?, hread, hne, hsymm]

/-- A string is read. -/
theorem value?_of_isBody {b : Text} (h : IsBody s b) (fuel : Nat) (r : Text) :
    value? (fuel + 1) ('"' :: (b ++ '"' :: r)) = some (string s, r) := by
  rw [value?, stringBody?_of_isBody h r]
  rfl

/-- An array is read without elements if it is closed at once. -/
theorem value?_of_noElements (hs : skipSpace s = ']' :: r) (fuel : Nat) :
    value? (fuel + 1) ('[' :: s) = some (array [], r) := by
  simp [value?, hs]

/-- An array is read if its elements are. -/
theorem value?_of_elements (hs : skipSpace s = c :: t) (hc : c ≠ ']')
    (h : value?.elements? fuel (c :: t) = some (vs, r)) :
    value? (fuel + 1) ('[' :: s) = some (array vs, r) := by
  simp [value?, hs, hc, h]

/-- An object is read without members if it is closed at once. -/
theorem value?_of_noMembers (hs : skipSpace s = '\x7d' :: r) (fuel : Nat) :
    value? (fuel + 1) ('\x7b' :: s) = some (object [], r) := by
  simp [value?, hs]

/-- An object is read if its members are. -/
theorem value?_of_members (hs : skipSpace s = '"' :: t)
    (h : value?.members? fuel ('"' :: t) = some (ms, r)) :
    value? (fuel + 1) ('\x7b' :: s) = some (object ms, r) := by
  simp [value?, hs, h]

/-- A last element is read with the closing bracket. -/
theorem elements?_of_last (hv : value? fuel s = some (v, t)) (ht : skipSpace t = ']' :: r) :
    value?.elements? (fuel + 1) s = some ([v], r) := by
  simp [value?.elements?, hv, ht]

/-- An element is read with those behind it. -/
theorem elements?_of_cons (hv : value? fuel s = some (v, t)) (ht : skipSpace t = ',' :: g)
    (h : value?.elements? fuel (skipSpace g) = some (vs, r)) :
    value?.elements? (fuel + 1) s = some (v :: vs, r) := by
  simp [value?.elements?, hv, ht, h]

/-- A member of an object is read from the beginning of a text, and something is left. -/
inductive ReadsMember (fuel : Nat) : Text × Json → Text → Text → Prop where
  /-- The name is read, then the colon, then the value. -/
  | mk {k s name colon r : Text} {v : Json} (hk : stringBody? (s.length + 1) s = some (k, name))
      (hcolon : skipSpace name = ':' :: colon) (hv : value? fuel (skipSpace colon) = some (v, r)) :
      ReadsMember fuel (k, v) ('"' :: s) r

/-- A last member is read with the closing brace. -/
theorem members?_of_last (hm : ReadsMember fuel m s t) (ht : skipSpace t = '\x7d' :: r) :
    value?.members? (fuel + 1) s = some ([m], r) := by
  obtain ⟨hk, hcolon, hv⟩ := hm
  simp [value?.members?, hk, hcolon, after?, hv, ht]

/-- A member is read with those behind it. -/
theorem members?_of_cons (hm : ReadsMember fuel m s t) (ht : skipSpace t = ',' :: g)
    (h : value?.members? fuel (skipSpace g) = some (ms, r)) :
    value?.members? (fuel + 1) s = some (m :: ms, r) := by
  obtain ⟨hk, hcolon, hv⟩ := hm
  simp [value?.members?, hk, hcolon, after?, hv, ht, h]

-- One case for each way to write a value, an element or a member. The texts of the parts are
-- shorter than the whole, and the fuel stays above the length of what is read.
mutual
/-- A value is read from each of its texts, if nothing behind it goes on with a number. -/
theorem value?_of_isValue {fuel : Nat} {j : Json} {w r : Text} (h : IsValue j w)
    (hfuel : w.length < fuel) (hr : EndsNumber r) : value? fuel (w ++ r) = some (j, r) := by
  cases fuel with
  | zero => contradiction
  | succ fuel =>
    cases h with
    | null => rfl
    | trueValue => rfl
    | falseValue => rfl
    | number h => exact value?_of_isNumber h hr fuel
    | @string s b h => simpa using value?_of_isBody h fuel r
    | @noElements g hg =>
      obtain ⟨-, hclose⟩ := mark_behind_gap hg (c := ']') (by decide) r
      simpa using value?_of_noElements hclose fuel
    | @array vs g w hg h =>
      have hlength : w.length < fuel := by grind
      have helements := elements?_of_isElements h hlength r
      obtain ⟨c, t, rfl, hc, hne⟩ := h.opens
      rw [List.cons_append, List.append_assoc]
      exact value?_of_elements (skipSpace_append hg hc (t ++ r)) hne helements
    | @noMembers g hg =>
      obtain ⟨-, hclose⟩ := mark_behind_gap hg (c := '\x7d') (by decide) r
      simpa using value?_of_noMembers hclose fuel
    | @object ms g w hg h =>
      have hlength : w.length < fuel := by grind
      have hmembers := members?_of_isMembers h hlength r
      obtain ⟨t, rfl⟩ := h.exists_cons
      rw [List.cons_append, List.append_assoc]
      exact value?_of_members (skipSpace_append hg (by decide) (t ++ r)) hmembers
termination_by w.length

/-- So are the elements of an array. -/
theorem elements?_of_isElements {fuel : Nat} {vs : List Json} {w : Text} (h : IsElements vs w)
    (hfuel : w.length < fuel) (r : Text) : value?.elements? fuel (w ++ r) = some (vs, r) := by
  cases fuel with
  | zero => contradiction
  | succ fuel =>
    cases h with
    | @last v w g hv hg =>
      have hlength : w.length < fuel := by grind
      obtain ⟨hend, hclose⟩ := mark_behind_gap hg (c := ']') (by decide) r
      simpa using elements?_of_last (value?_of_isValue hv hlength hend) hclose
    | @cons v vs w g g' rest hv hg hg' h =>
      have hlength : w.length < fuel ∧ rest.length < fuel := by grind
      obtain ⟨hend, hcomma⟩ := mark_behind_gap hg (c := ',') (by decide) (g' ++ (rest ++ r))
      have hrest := elements?_of_isElements h hlength.2 r
      rw [← h.opens.skipSpace_append hg' r] at hrest
      simpa using elements?_of_cons (value?_of_isValue hv hlength.1 hend) hcomma hrest
termination_by w.length

/-- So are the members of an object. -/
theorem members?_of_isMembers {fuel : Nat} {ms : List (Text × Json)} {w : Text}
    (h : IsMembers ms w) (hfuel : w.length < fuel) (r : Text) :
    value?.members? fuel (w ++ r) = some (ms, r) := by
  cases fuel with
  | zero => contradiction
  | succ fuel =>
    cases h with
    | @last m w g hm hg =>
      have hlength : w.length < fuel := by grind
      obtain ⟨hend, hclose⟩ := mark_behind_gap hg (c := '\x7d') (by decide) r
      simpa using members?_of_last (readsMember_of_isMember hm hlength hend) hclose
    | @cons m ms w g g' rest hm hg hg' h =>
      have hlength : w.length < fuel ∧ rest.length < fuel := by grind
      obtain ⟨hend, hcomma⟩ := mark_behind_gap hg (c := ',') (by decide) (g' ++ (rest ++ r))
      have hrest := members?_of_isMembers h hlength.2 r
      rw [← h.opens.skipSpace_append hg' r] at hrest
      simpa using members?_of_cons (readsMember_of_isMember hm hlength.1 hend) hcomma hrest
termination_by w.length

/-- So is a member alone. -/
theorem readsMember_of_isMember {fuel : Nat} {m : Text × Json} {w r : Text} (h : IsMember m w)
    (hfuel : w.length < fuel) (hr : EndsNumber r) : ReadsMember fuel m (w ++ r) r := by
  cases h with
  | @mk k b w g g' v hk hg hg' hv =>
    have hlength : w.length < fuel := by grind
    have hvalue := value?_of_isValue hv hlength hr
    rw [← hv.opens.skipSpace_append hg' r] at hvalue
    have hcolon : skipSpace (g ++ ':' :: (g' ++ (w ++ r))) = ':' :: (g' ++ (w ++ r)) :=
      skipSpace_append hg (by decide) _
    simpa using ReadsMember.mk (stringBody?_of_isBody hk _) hcolon hvalue
termination_by w.length
end

/-- A text of a value with white space around it is read as that value. -/
theorem read?_of_isDocument (h : IsDocument j s) : read? s = some j := by
  cases h with
  | @mk g w g' hg hw hg' =>
    have hlength : w.length < (g ++ (w ++ g')).length + 1 := by
      simp only [List.length_append]
      omega
    have hend : EndsNumber g' := by simpa using endsNumber_append hg' (r := []) nofun
    have hread := value?_of_isValue hw hlength hend
    have hopen := hw.opens.skipSpace_append hg g'
    have hclose := skipSpace_of_isGap hg'
    simp only [read?, hopen, hread, Option.bind_eq_bind, Option.bind_some, hclose]
    rfl

end Json

end ElixirDiagnostics
