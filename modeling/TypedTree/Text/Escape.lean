import TypedTree.Unicode.Property

/-!
# Escaped spellings

Bytes as printable ASCII with escapes, and quoted strings in which every character that would not
show is written by its code point.
-/

namespace TypedTree.Text

/-- A lowercase hexadecimal digit below sixteen. -/
def hexChar (n : Nat) : Char :=
  Nat.digitChar n

def escapeByte (b : UInt8) : List Char :=
  let n := b.toNat
  if n = 9 then ['\\', 't']
  else if n = 10 then ['\\', 'n']
  else if n = 13 then ['\\', 'r']
  else if n = 34 ∨ n = 39 ∨ n = 92 then ['\\', Char.ofNat n]
  else if 32 ≤ n ∧ n < 127 then [Char.ofNat n]
  else ['\\', 'x', hexChar (n / 16), hexChar (n % 16)]

def escapeBytes (bytes : List UInt8) : String :=
  String.ofList (bytes.flatMap escapeByte)

/-- The spelling of a character inside double quotes. -/
def quoteChar (c : Char) : List Char :=
  if c = '\t' then ['\\', 't']
  else if c = '\n' then ['\\', 'n']
  else if c = '\r' then ['\\', 'r']
  else if c = '\x00' then ['\\', '0']
  else if c = '"' ∨ c = '\\' then ['\\', c]
  else if Unicode.isPrintable c then [c]
  else ['\\', 'u', '{'] ++ Nat.toDigits 16 c.toNat ++ ['}']

/-- The text in double quotes, with everything escaped that would not show. -/
def quoted (text : String) : String :=
  String.ofList ('"' :: text.toList.flatMap quoteChar ++ ['"'])

end TypedTree.Text
