/-!
# Joining of texts
-/

namespace TypedTree

def joinTexts (separator : String) : List String → String
  | [] => ""
  | [text] => text
  | text :: rest => text ++ separator ++ joinTexts separator rest

end TypedTree
