import TypedTree.Value.Text

/-!
# Texts of type descriptions
-/

namespace TypedTree

def Scalar.text : Scalar → String
  | .none => "None"
  | .bool => "bool"
  | .int => "int"
  | .float => "float"
  | .str => "str"
  | .bytes => "bytes"
  | .symbol pattern => "SymbolName[" ++ pattern.source ++ "]"
  | .symbolRef => "SymbolRef"

namespace Ty

mutual

/-- The text of a description. A variable shows without its bound. -/
def text (c : Catalog) : Ty → String
  | .any => "Any"
  | .scalar s => s.text
  | .literal values => "Literal[" ++ joinTexts ", " (values.map (·.text c)) ++ "]"
  | .optional inner => "Optional[" ++ inner.text c ++ "]"
  | .union alternatives => "Union[" ++ joinTexts ", " (texts c alternatives) ++ "]"
  | .tuple elements => "Tuple[" ++ joinTexts ", " (texts c elements) ++ "]"
  | .list element => "List[" ++ element.text c ++ "]"
  | .set element => "Set[" ++ element.text c ++ "]"
  | .map key value => "Dict[" ++ key.text c ++ ", " ++ value.text c ++ "]"
  | .enum e => (c.enumType e).name
  | .record t => c.typeName t
  | .var name _ => name
  | .apply generic arguments =>
    c.typeName generic ++ "[" ++ joinTexts ", " (texts c arguments) ++ "]"
termination_by structural t => t

def texts (c : Catalog) : List Ty → List String
  | [] => []
  | t :: ts => t.text c :: texts c ts
termination_by structural ts => ts

end

end Ty

end TypedTree
