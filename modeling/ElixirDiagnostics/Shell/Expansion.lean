import ElixirDiagnostics.Shell.Glob
import ElixirDiagnostics.Shell.State
import ElixirDiagnostics.Shell.Word

/-!
# Expansion of words

A word of a script becomes any number of texts. Parameters, scripts and expressions are replaced by
their values, and a value that is not quoted is split where it holds separators. How a script is run
is left open here. File names are not expanded.
-/

namespace ElixirDiagnostics

namespace Shell

/-- A part of an expanded word. -/
inductive Item where
  /-- A character, whether it can separate texts, and whether it can have a meaning in a pattern. -/
  | char (c : Char) (splits active : Bool)
  /-- A sign that there is a text here, though it may be empty. -/
  | present
  /-- The boundary between two texts. -/
  | cut
  deriving DecidableEq, Repr

/-- The items of a value. -/
def itemsOf (quoted : Bool) (s : Text) : List Item :=
  (if quoted then [Item.present] else []) ++ s.map fun c => .char c (!quoted) (!quoted)

/-- The items of several values, each of which is a text of its own. -/
def itemsOfEach (quoted : Bool) : List Text → List Item
  | [] => []
  | [s] => itemsOf quoted s
  | s :: ss => itemsOf quoted s ++ .cut :: itemsOfEach quoted ss

/-- The characters that separate texts. -/
def separators (st : State) : Text := (st.value? "IFS".toList).getD [' ', '\t', '\n']

/-- The value of a parameter that is not the list of all arguments. -/
def parameter? (st : State) (name : Text) : Option Text :=
  match name with
  | ['?'] => some (Text.ofNat st.status)
  | ['#'] => some (Text.ofNat st.arguments.length)
  | ['$'] => some (Text.ofNat st.number)
  | ['0'] => some st.name
  | ['!'] => none
  | ['-'] => some (if st.strict then ['e'] else [])
  | ['@'] | ['*'] => if st.arguments.isEmpty then none else some (List.intercalate [' '] st.arguments)
  | _ =>
    if name.all Char.isDigit then st.arguments[Text.decimalValue name - 1]?
    else if name = "LINENO".toList then st.line.map Text.ofNat
    else if name = "PWD".toList then some st.dir
    else st.value? name

/-- The items of a parameter. -/
def parameterItems (st : State) (name : Text) (quoted : Bool) : List Item :=
  if name = ['@'] ∨ (name = ['*'] ∧ !quoted) then itemsOfEach quoted st.arguments
  else if name = ['*'] then
    let separator := (separators st).take 1
    itemsOf true (List.intercalate separator st.arguments)
  else itemsOf quoted ((parameter? st name).getD [])

/-- The texts that items make up, with the text that is being read. -/
def fieldsFrom (separators : Text) : Option Text → List Item → List Text
  | none, [] => []
  | some s, [] => [s.reverse]
  | s, .present :: r => fieldsFrom separators (some (s.getD [])) r
  | none, .cut :: r => fieldsFrom separators none r
  | some s, .cut :: r => s.reverse :: fieldsFrom separators none r
  | s, .char c splits _ :: r =>
    if splits && separators.contains c then
      match s with
      | some s => s.reverse :: fieldsFrom separators none r
      | none =>
        if c = ' ' ∨ c = '\t' ∨ c = '\n' then fieldsFrom separators none r
        else [] :: fieldsFrom separators none r
    else fieldsFrom separators (some (c :: s.getD [])) r

/-- The characters of items, with their meaning in a pattern. -/
def patternOf (items : List Item) : List (Char × Bool) :=
  items.filterMap fun
    | .char c _ active => some (c, active)
    | .present => none
    | .cut => some (' ', false)

/-- The text of items that are not split. -/
def textOf (items : List Item) : Text := (patternOf items).map (·.1)

/-- Drops the line ends at the end of a text. -/
def dropFinalNewlines (s : Text) : Text := (s.reverse.dropWhile (· == '\n')).reverse

/-- How a script is run for its output. -/
abbrev Substitution := Text → State → Text × State

/-- Whether an operator on parameters takes an empty value for none. -/
def treatsEmptyAsNone (operator : Text) : Bool := operator.head? == some ':'

mutual

/-- Expands a part of a word. The fuel of this function and the next one is more than the length of
the word and the depth to which parameters stand in each other. -/
def expandPiece (run : Substitution) : Nat → Piece → State → List Item × State
  | 0, _, st => ([], st)
  | fuel + 1, p, st =>
    match p with
    | .literal s quoted =>
      ((if quoted then [Item.present] else []) ++ s.map fun c => .char c false (!quoted), st)
    | .command script quoted =>
      let (s, st) := run script st
      (itemsOf quoted (dropFinalNewlines s), st)
    | .arithmetic expression quoted =>
      match word? true (expression.length + 1) expression with
      | none => ([], st.abort (ArithmeticError.malformed.message expression) 2)
      | some (w, _) =>
        let (items, st) := expandWord run fuel w st
        match evaluate st.values (textOf items) with
        | .ok (n, vars) => (itemsOf quoted (Text.ofInt n), { st with values := vars })
        | .error e => ([], st.abort (e.message (textOf items)) 2)
    | .parameter name operator operand quoted =>
      if operator.isEmpty then (parameterItems st name quoted, st)
      else if operator = "length".toList then
        (itemsOf quoted (Text.ofNat ((parameter? st name).getD []).length), st)
      else
        match word? true (operand.length + 1) operand with
        | none => ([], st.abort "Bad substitution".toList 2)
        | some (w, _) =>
          let value := (parameter? st name).filter fun s =>
            !(treatsEmptyAsNone operator && s.isEmpty)
          let w := if quoted then w.map Piece.quote else w
          match (operator.getLast?).getD ' ', value with
          | '-', some _ | '=', some _ | '?', some _ => (parameterItems st name quoted, st)
          | '-', none => expandWord run fuel w st
          | '+', some _ => expandWord run fuel w st
          | '+', none => (itemsOf quoted [], st)
          | '=', none =>
            let (items, st) := expandWord run fuel w st
            (itemsOf quoted (textOf items), st.assign name (textOf items))
          | '?', none =>
            let (items, st) := expandWord run fuel w st
            let message := if items.isEmpty then "parameter not set".toList else textOf items
            ([], st.abort (name ++ ": ".toList ++ message) 2)
          | '%', _ =>
            let (items, st) := expandWord run fuel w st
            (itemsOf quoted (dropEnding (operator.length == 2) (patternOf items)
              ((parameter? st name).getD [])), st)
          | '#', _ =>
            let (items, st) := expandWord run fuel w st
            (itemsOf quoted (dropBeginning (operator.length == 2) (patternOf items)
              ((parameter? st name).getD [])), st)
          | _, _ => ([], st.abort "Bad substitution".toList 2)

/-- Expands the parts of a word one after the other. -/
def expandWord (run : Substitution) : Nat → Word → State → List Item × State
  | 0, _, st => ([], st)
  | _, [], st => ([], st)
  | fuel + 1, p :: ps, st =>
    let (a, st) := expandPiece run fuel p st
    let (b, st) := expandWord run fuel ps st
    (a ++ b, st)

end

/-- How much fuel it takes to expand a word. -/
def expansionFuel (w : Word) : Nat :=
  4 * w.foldr (fun p n => p.source.length + p.operandLength + 4 + n) 0 + 4

/-- Expands a word without splitting it. -/
def expandText (run : Substitution) (w : Word) (st : State) : Text × State :=
  let (items, st) := expandWord run (expansionFuel w) w st
  (textOf items, st)

/-- Expands a word to a pattern. -/
def expandPattern (run : Substitution) (w : Word) (st : State) : List (Char × Bool) × State :=
  let (items, st) := expandWord run (expansionFuel w) w st
  (patternOf items, st)

/-- Whether a part stands for all arguments, each as a text of its own. -/
def Piece.isAllArguments : Piece → Bool
  | parameter ['@'] [] _ true => true
  | _ => false

/-- Expands a word to texts. Where all arguments are asked for and there are none, quotes make no
text. -/
def expandFields (run : Substitution) (w : Word) (st : State) : List Text × State :=
  let (items, st) := expandWord run (expansionFuel w) w st
  let empty := w.any Piece.isAllArguments && st.arguments.isEmpty && (textOf items).isEmpty
  (if empty then [] else fieldsFrom (separators st) none items, st)

/-- Expands words to texts. -/
def expandAll (run : Substitution) : List Word → State → List Text × State
  | [], st => ([], st)
  | w :: ws, st =>
    let (a, st) := expandFields run w st
    let (b, st) := expandAll run ws st
    (a ++ b, st)

end Shell

end ElixirDiagnostics
