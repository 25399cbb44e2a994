import TypedTree.Numeric.Decimal
import TypedTree.Schema.Basic
import TypedTree.Text.Escape
import TypedTree.Text.Join

/-!
# Texts of values

How values show in messages: strings and bytes in quotes, containers in brackets, a record as its
type's name with the fields that take part in its representation.
-/

namespace TypedTree

/-- The text of a truth value. -/
def boolText (b : Bool) : String :=
  if b then "True" else "False"

def bytesText (b : List UInt8) : String :=
  "b'" ++ Text.escapeBytes b ++ "'"

def Literal.text (c : Catalog) : Literal → String
  | .none => "None"
  | .bool b => boolText b
  | .int n => toString n.toInt
  | .str s => "'" ++ s ++ "'"
  | .bytes b => bytesText b
  | .member m => c.memberText m

mutual

def Value.text (c : Catalog) : Value → String
  | .none => "None"
  | .bool b => boolText b
  | .int n => toString n.toInt
  | .float x => x.text
  | .str s => "'" ++ s ++ "'"
  | .bytes b => bytesText b
  | .member m => c.memberText m
  | .tuple items =>
    match Value.texts c items with
    | [text] => "(" ++ text ++ ",)"
    | texts => "(" ++ joinTexts ", " texts ++ ")"
  | .list items => "[" ++ joinTexts ", " (Value.texts c items) ++ "]"
  | .set items => "\x7b" ++ joinTexts ", " (Value.texts c items) ++ "\x7d"
  | .map entries => "\x7b" ++ joinTexts ", " (Value.entryTexts c entries) ++ "\x7d"
  | .record r => r.text c
termination_by structural v => v

def Record.text (c : Catalog) : Record → String
  | ⟨type, values, _, _⟩ =>
    let shown := (c.schema type).select (·.flags.repr) (Value.texts c values)
    let fields := shown.map fun (name, text) => name ++ "=" ++ text
    c.typeName type ++ "(" ++ joinTexts ", " fields ++ ")"
termination_by structural r => r

def Value.texts (c : Catalog) : List Value → List String
  | [] => []
  | v :: vs => v.text c :: Value.texts c vs
termination_by structural vs => vs

def Value.entryTexts (c : Catalog) : List (Value × Value) → List String
  | [] => []
  | (k, v) :: es => (k.text c ++ ": " ++ v.text c) :: Value.entryTexts c es
termination_by structural es => es

end

/-- The name of the kind of a value; for members and records, of their type. -/
def Value.kindName (c : Catalog) : Value → String
  | .none => "None"
  | .bool _ => "bool"
  | .int _ => "int"
  | .float _ => "float"
  | .str _ => "str"
  | .bytes _ => "bytes"
  | .member m => (c.enumType m.enum).name
  | .tuple _ => "tuple"
  | .list _ => "list"
  | .set _ => "set"
  | .map _ => "dict"
  | .record r => c.typeName r.type

/-- The label of a node: its type's name and its number. -/
def Record.label? (c : Catalog) (r : Record) : Option String :=
  r.node.map fun node => c.typeName r.type ++ "_" ++ toString node.id.toNat

end TypedTree
