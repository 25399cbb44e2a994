import TypedTree.Unicode.Segmentation

/-!
# Names of character properties

Patterns name sets of characters by properties of the character database: a property or a value
alone, or a property and its value with a sign between them. Spelling is loose: case, blanks,
hyphens, underscores, characters beyond ASCII and a leading `is` do not count.
-/

namespace TypedTree.Pattern

open Unicode (CodePointSet Category Edition)

/-- The letters of a name that count. The abbreviation `isc` is not read as the name `c`. -/
def looseName (name : List Char) : String :=
  let plain (text : List Char) : List Char :=
    (text.filter fun c => c.toNat < 0x80 && !(c == ' ' || c == '-' || c == '_')).map Char.toLower
  let letters := match plain (name.take 2) with
    | ['i', 's'] => match plain (name.drop 2) with
      | ['c'] => ['i', 's', 'c']
      | rest => rest
    | _ => plain name
  String.ofList letters

/-- The characters of several categories. -/
def inCategories (ks : List Category) : CodePointSet :=
  Edition.v16.categories ks

/-- The general category, or group of categories, with the given name. -/
def category? (name : String) : Option CodePointSet :=
  match name with
  | "any" => some (.range 0 Unicode.lastCodePoint)
  | "ascii" => some (.range 0 0x7F)
  | "assigned" => some (inCategories Category.all)
  | "l" | "letter" => some (inCategories Category.letters)
  | "lc" | "casedletter" => some (inCategories Category.casedLetters)
  | "lu" | "uppercaseletter" => some (inCategories [.uppercaseLetter])
  | "ll" | "lowercaseletter" => some (inCategories [.lowercaseLetter])
  | "lt" | "titlecaseletter" => some (inCategories [.titlecaseLetter])
  | "lm" | "modifierletter" => some (inCategories [.modifierLetter])
  | "lo" | "otherletter" => some (inCategories [.otherLetter])
  | "m" | "mark" | "combiningmark" => some (inCategories Category.marks)
  | "mn" | "nonspacingmark" => some (inCategories [.nonspacingMark])
  | "mc" | "spacingmark" => some (inCategories [.spacingMark])
  | "me" | "enclosingmark" => some (inCategories [.enclosingMark])
  | "n" | "number" => some (inCategories Category.numbers)
  | "nd" | "decimalnumber" | "digit" => some (inCategories [.decimalNumber])
  | "nl" | "letternumber" => some (inCategories [.letterNumber])
  | "no" | "othernumber" => some (inCategories [.otherNumber])
  | "p" | "punctuation" | "punct" => some (inCategories Category.punctuation)
  | "pc" | "connectorpunctuation" => some (inCategories [.connector])
  | "pd" | "dashpunctuation" => some (inCategories [.dash])
  | "ps" | "openpunctuation" => some (inCategories [.openPunctuation])
  | "pe" | "closepunctuation" => some (inCategories [.closePunctuation])
  | "pi" | "initialpunctuation" => some (inCategories [.initialQuote])
  | "pf" | "finalpunctuation" => some (inCategories [.finalQuote])
  | "po" | "otherpunctuation" => some (inCategories [.otherPunctuation])
  | "s" | "symbol" => some (inCategories Category.symbols)
  | "sm" | "mathsymbol" => some (inCategories [.mathSymbol])
  | "sc" | "currencysymbol" => some (inCategories [.currencySymbol])
  | "sk" | "modifiersymbol" => some (inCategories [.modifierSymbol])
  | "so" | "othersymbol" => some (inCategories [.otherSymbol])
  | "z" | "separator" => some (inCategories Category.separators)
  | "zs" | "spaceseparator" => some (inCategories [.spaceSeparator])
  | "zl" | "lineseparator" => some (inCategories [.lineSeparator])
  | "zp" | "paragraphseparator" => some (inCategories [.paragraphSeparator])
  | "c" | "other" =>
    some ((inCategories [.control, .format, .privateUse]).union Edition.v16.unassigned)
  | "cc" | "control" | "cntrl" => some (inCategories [.control])
  | "cf" | "format" => some (inCategories [.format])
  | "co" | "privateuse" => some (inCategories [.privateUse])
  | "cn" | "unassigned" => some Edition.v16.unassigned
  | _ => none

/-- The set that a name alone stands for: a property, a category or a script. -/
def namedProperty? (name : String) : Option CodePointSet :=
  match Unicode.binaryProperty? name with
  | some set => some set
  | none => match category? name with
    | some set => some set
    | none => Unicode.script? name

/-- The set of characters for which a property has a value. -/
def valuedProperty? (name value : String) : Option CodePointSet :=
  match name with
  | "gc" | "generalcategory" => category? value
  | "sc" | "script" => Unicode.script? value
  | "scx" | "scriptextensions" => Unicode.scriptExtensions? value
  | "age" => Unicode.assignedBy? value
  | "gcb" | "graphemeclusterbreak" => Unicode.clusterClass? value
  | "wb" | "wordbreak" => Unicode.wordClass? value
  | "sb" | "sentencebreak" => Unicode.sentenceClass? value
  | _ => none

/-- What stands in front of the first occurrence of a sign and what stands behind it. -/
def cutAt? (sign : List Char) : List Char → Option (List Char × List Char)
  | [] => none
  | c :: rest =>
    if sign.isPrefixOf (c :: rest) then some ([], (c :: rest).drop sign.length)
    else (cutAt? sign rest).map fun (before, behind) => (c :: before, behind)

/-- The set that a property stands for, and whether its sign negates it: a name alone, or a name
and a value with `!=`, `:` or `=` between them. -/
def property? (text : List Char) : Option (Bool × CodePointSet) :=
  let valued (negated : Bool) (parts : List Char × List Char) : Option (Bool × CodePointSet) :=
    (valuedProperty? (looseName parts.1) (looseName parts.2)).map (negated, ·)
  match cutAt? ['!', '='] text with
  | some parts => valued true parts
  | none => match cutAt? [':'] text with
    | some parts => valued false parts
    | none => match cutAt? ['='] text with
      | some parts => valued false parts
      | none => (namedProperty? (looseName text)).map (false, ·)

end TypedTree.Pattern
