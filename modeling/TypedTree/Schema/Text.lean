import TypedTree.Schema.Basic
import TypedTree.Text.Escape
import TypedTree.Ty.Text

/-!
# Texts of schemas

The words for kinds, roles and flags, and descriptions of fields and schemas on one line.
-/

namespace TypedTree

def RecordKind.word : RecordKind → String
  | .plain => "Model"
  | .node => "Node"

def FieldKind.word : FieldKind → String
  | .child => "Child"
  | .note => "Annotation"
  | .internal => "Internal"

def setWords (flags : List (Bool × String)) : List String :=
  (flags.filter (·.1)).map (·.2)

def FieldFlags.words (f : FieldFlags) : List String :=
  setWords [(f.init, "init"), (f.eq, "eq"), (f.order, "order"), (f.hash, "hash"),
    (f.repr, "repr")]

def SchemaFlags.words (f : SchemaFlags) : List String :=
  setWords [(f.frozen, "frozen"), (f.hashable, "hashable"), (f.ordered, "ordered"),
    (f.abstract, "abstract"), (f.scope, "scope")]

def describeFlags (words : List String) : String :=
  if words.isEmpty then "0x0" else joinTexts " | " words

def Field.description (c : Catalog) (f : Field) : String :=
  "FieldDescriptor \x7b name: " ++ Text.quoted f.name ++ ", ty: " ++
    Text.quoted (f.type.text c) ++ ", kind: " ++ f.kind.word ++ ", flags: FieldFlags(" ++
    describeFlags (f.flags.words.map String.toUpper) ++ "), validators: " ++
    toString f.checks.length ++ ", .. \x7d"

def Schema.description (c : Catalog) (s : Schema) : String :=
  let words := s.flags.words.map fun word =>
    if word = "scope" then "SYMBOL_SCOPE" else word.toUpper
  "RecordType \x7b name: " ++ Text.quoted s.name ++ ", kind: " ++ s.kind.word ++
    ", flags: ModelFlags(" ++ describeFlags words ++ "), fields: [" ++
    joinTexts ", " (s.fields.map (·.description c)) ++ "], .. \x7d"

end TypedTree
