import TypedTree.Pattern.Matching
import TypedTree.Pattern.Parser
import TypedTree.Pattern.Size

/-!
# Symbol patterns

A symbol name matches a pattern when a regular expression built around the pattern's source, with
anchors at both ends, matches it.
-/

namespace TypedTree

/-- The pattern that a symbol name has to match as a whole: its source, and the expression that the
anchored source stands for. -/
structure SymbolPattern where
  source : String
  regex : Option Pattern.Regex
  regex_eq : regex = Pattern.Regex.parse? ("^(?:" ++ source ++ ")$")

namespace SymbolPattern

theorem eq_of_source_eq {a b : SymbolPattern} (h : a.source = b.source) : a = b := by
  obtain ⟨source, regex, rfl⟩ := a
  obtain ⟨_, _, rfl⟩ := b
  subst h
  rfl

instance : DecidableEq SymbolPattern := fun a b =>
  decidable_of_iff (a.source = b.source) ⟨eq_of_source_eq, fun h => by rw [h]⟩

instance : Repr SymbolPattern := ⟨fun pattern precedence => reprPrec pattern.source precedence⟩

def ofSource (source : String) : SymbolPattern :=
  ⟨source, _, rfl⟩

/-- The pattern with the given source, if the source is well formed and not too large. -/
def ofSource? (source : String) : Option SymbolPattern :=
  let pattern := ofSource source
  match pattern.regex with
  | some regex => if regex.fits then some pattern else none
  | none => none

/-- A letter or underscore, then word characters. -/
def identifier : SymbolPattern :=
  .ofSource "[a-zA-Z_]\\w*"

def accepts (pattern : SymbolPattern) (name : String) : Bool :=
  match pattern.regex with
  | some regex => regex.isMatch name
  | none => false

end SymbolPattern

end TypedTree
