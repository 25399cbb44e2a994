import TypedTree.Value.Equality
import TypedTree.Value.Text

/-!
# Fragments

What generating a value gives: text for scalars and nodes, and for containers the fragments of
their parts, so that a rule can still choose how to join them.
-/

namespace TypedTree

/-- The outcome of generating a value. -/
inductive Fragment where
  | text (s : String)
  | seq (items : List Fragment)
  | set (items : List Fragment)
  | map (entries : List (Value × Fragment))

instance : Inhabited Fragment := ⟨.text ""⟩

namespace Fragment

def asText? : Fragment → Option String
  | .text s => some s
  | _ => none

/-- The elements, of a sequence or set. -/
def elements? : Fragment → Option (List Fragment)
  | .seq items => some items
  | .set items => some items
  | _ => none

/-- How a key shows: strings without quotes, everything else as its text. -/
def keyText (c : Catalog) : Value → String
  | .str s => s
  | v => v.text c

mutual

/-- The text of a fragment, with the separator between the parts of containers at every level. An
entry shows as its key, a colon and its value. -/
def join (c : Catalog) (separator : String) : Fragment → String
  | .text s => s
  | .seq items => joinTexts separator (joinAll c separator items)
  | .set items => joinTexts separator (joinAll c separator items)
  | .map entries => joinTexts separator (joinEntries c separator entries)
termination_by structural f => f

def joinAll (c : Catalog) (separator : String) : List Fragment → List String
  | [] => []
  | f :: fs => f.join c separator :: joinAll c separator fs
termination_by structural fs => fs

def joinEntries (c : Catalog) (separator : String) : List (Value × Fragment) → List String
  | [] => []
  | (k, f) :: es => (keyText c k ++ ": " ++ f.join c separator) :: joinEntries c separator es
termination_by structural es => es

end

/-- The text of a fragment, with commas between the parts of containers. -/
def display (c : Catalog) (f : Fragment) : String :=
  f.join c ", "

end Fragment

/-- Fragments by name, in the order of insertion. -/
abbrev Bindings := List (String × Fragment)

/-- Replaces the fragment of a name, or adds the name behind the others. -/
def Bindings.put (name : String) (f : Fragment) : Bindings → Bindings
  | [] => [(name, f)]
  | (n, g) :: rest => if n = name then (n, f) :: rest else (n, g) :: Bindings.put name f rest

end TypedTree
