/-!
# Source formatters

Which program formats the source of a language, and with which arguments.
-/

namespace TypedTree

/-- A program that reads a source and writes it formatted. -/
structure Formatter where
  program : String
  arguments : List String := []
deriving DecidableEq, Repr

namespace Formatter

/-- The formatter for the C family, with its style options. -/
def clangFormat (style fallback : Option String) (sortIncludes : Bool) : Formatter where
  program := "clang-format"
  arguments :=
    (style.map ("--style=" ++ ·)).toList ++ (fallback.map ("--fallback-style=" ++ ·)).toList ++
      (if sortIncludes then ["--sort-includes"] else [])

def rustfmt : Formatter where
  program := "rustfmt"
  arguments := ["--emit=stdout", "--quiet"]

/-- The formatter for a language, whose name is read without regard to the case of ASCII
letters. -/
def forLanguage? (language : String) : Option Formatter :=
  let name := String.ofList (language.toList.map Char.toLower)
  if ["c", "cpp", "c++", "cxx", "cuda"].contains name then some (clangFormat none none false)
  else if ["rust", "rs"].contains name then some rustfmt
  else none

end Formatter

/-- A language without a formatter. -/
structure UnknownLanguage where
  language : String
deriving DecidableEq, Repr

/-- The wording of the error. -/
def UnknownLanguage.message (e : UnknownLanguage) : String :=
  s!"no formatter available for `{e.language}` sources"

/-- The source of a language without a formatter: itself where errors are skipped. -/
def formatUnknown (language source : String) (skipErrors : Bool) :
    Except UnknownLanguage String :=
  if skipErrors then .ok source else .error ⟨language⟩

end TypedTree
