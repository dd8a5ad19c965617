import ElixirDiagnostics.Pattern.CharSet

/-!
# Character properties by name

A pattern can ask for a class of characters by the name of a general category, a group of them, a
script or another property. Case, blanks, dashes and underscores in the name do not matter, nor does
a leading `is`.
-/

namespace ElixirDiagnostics

namespace Pattern

open Unicode (Category Script)

/-- A name without what does not matter in it. -/
def looseName (s : Text) : Text :=
  let t := (s.filter fun c => c != ' ' && c != '-' && c != '_' && c.toNat < 128).map Char.toLower
  match Text.after? "is".toList t with
  | some r => if r = ['c'] then t else r
  | none => t

/-- The groups of general categories, by their names. -/
def categoryGroups : List (List String × List Category) :=
  [(["l", "letter"], Unicode.letters),
   (["lc", "casedletter"], [.uppercaseLetter, .lowercaseLetter, .titlecaseLetter]),
   (["m", "mark", "combiningmark"], Unicode.marks),
   (["n", "number"], [.decimalNumber, .letterNumber, .otherNumber]),
   (["p", "punct", "punctuation"],
     [.connectorPunctuation, .dashPunctuation, .openPunctuation, .closePunctuation,
      .initialPunctuation, .finalPunctuation, .otherPunctuation]),
   (["s", "symbol"], [.mathSymbol, .currencySymbol, .modifierSymbol, .otherSymbol]),
   (["z", "separator"], [.spaceSeparator, .lineSeparator, .paragraphSeparator]),
   (["nd", "decimalnumber", "digit"], [.decimalNumber]),
   (["cc", "control", "cntrl"], [.control])]

/-- The characters that no category lists. -/
def unassigned : CharSet := .compl (.categories Category.all)

/-- The set of a general category or a group of them. -/
def category? (name : Text) : Option CharSet :=
  if name = "any".toList then some (.compl .none)
  else if name = "ascii".toList then some .ascii
  else if name = "assigned".toList then some (.categories Category.all)
  else if name = "cn".toList ∨ name = "unassigned".toList then some unassigned
  else if name = "c".toList ∨ name = "other".toList then
    some (.union (.categories [.control, .format, .privateUse]) unassigned)
  else match categoryGroups.find? fun (names, _) => names.any (·.toList = name) with
    | some (_, ks) => some (.categories ks)
    | none => (Category.all.find? fun k =>
        k.longName = name || k.code.map Char.toLower = name).map fun k => .categories [k]

/-- The set of a script. -/
def script? (name : Text) : Option CharSet :=
  (Script.all.find? fun s => s.longName = name || s.code = name).map .script

/-- The set of a property that characters have or lack. -/
def binary? (name : Text) : Option CharSet :=
  if name = "whitespace".toList ∨ name = "wspace".toList ∨ name = "space".toList then some .space
  else if name = "alphabetic".toList ∨ name = "alpha".toList then some (.property .alphabetic)
  else if name = "uppercase".toList ∨ name = "upper".toList then some (.property .uppercase)
  else if name = "lowercase".toList ∨ name = "lower".toList then some (.property .lowercase)
  else none

/-- The characters of a property, by its name alone or by name and value. -/
def property? (text : Text) : Option CharSet :=
  let named (name value : Text) : Option CharSet :=
    if ["gc", "generalcategory"].any (·.toList = looseName name) then category? (looseName value)
    else if ["sc", "script", "scx", "scriptextensions"].any (·.toList = looseName name) then
      script? (looseName value)
    else none
  match List.splitOn '=' text with
  | [whole] =>
    match List.splitOn ':' whole with
    | [_] =>
      let name := looseName whole
      ((binary? name).or (category? name)).or (script? name)
    | name :: values => named name (List.intercalate [':'] values)
    | [] => none
  | name :: values =>
    match name.getLast? with
    | some '!' => (named name.dropLast (List.intercalate ['='] values)).map .compl
    | _ => named name (List.intercalate ['='] values)
  | [] => none

/-- The characters of a class that is written in double brackets. -/
def asciiClass? (name : Text) : Option CharSet :=
  match [("alnum", [('0', '9'), ('A', 'Z'), ('a', 'z')]), ("alpha", [('A', 'Z'), ('a', 'z')]),
    ("ascii", [('\x00', '\x7f')]), ("blank", [('\t', '\t'), (' ', ' ')]),
    ("cntrl", [('\x00', '\x1f'), ('\x7f', '\x7f')]), ("digit", [('0', '9')]),
    ("graph", [('!', '~')]), ("lower", [('a', 'z')]), ("print", [(' ', '~')]),
    ("punct", [('!', '/'), (':', '@'), ('[', '\x60'), ('\x7b', '~')]),
    ("space", [('\t', '\r'), (' ', ' ')]), ("upper", [('A', 'Z')]),
    ("word", [('0', '9'), ('A', 'Z'), ('_', '_'), ('a', 'z')]),
    ("xdigit", [('0', '9'), ('A', 'F'), ('a', 'f')])].find? fun (n, _) => n.toList = name with
  | some (_, rs) => some (.ofRanges rs)
  | none => none

end Pattern

end ElixirDiagnostics
