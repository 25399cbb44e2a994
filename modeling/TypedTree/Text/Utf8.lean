/-!
# Decoding of UTF-8

Every byte sequence decodes to a text: a longest part that starts a well-formed character but does
not complete it, or a byte that starts none, becomes one replacement character.
-/

namespace TypedTree.Text

/-- The character that stands for bytes that are not UTF-8. -/
def replacement : Char := '\uFFFD'

/-- For the first byte of a longer character: the bits it contributes, the number of bytes that
follow, and the range of the byte right after it. -/
def leadByte? (b : UInt8) : Option (Nat × Nat × Nat × Nat) :=
  let n := b.toNat
  if 0xC2 ≤ n ∧ n ≤ 0xDF then some (n - 0xC0, 1, 0x80, 0xBF)
  else if n = 0xE0 then some (0, 2, 0xA0, 0xBF)
  else if n = 0xED then some (n - 0xE0, 2, 0x80, 0x9F)
  else if 0xE1 ≤ n ∧ n ≤ 0xEF then some (n - 0xE0, 2, 0x80, 0xBF)
  else if n = 0xF0 then some (0, 3, 0x90, 0xBF)
  else if 0xF1 ≤ n ∧ n ≤ 0xF3 then some (n - 0xF0, 3, 0x80, 0xBF)
  else if n = 0xF4 then some (4, 3, 0x80, 0x8F)
  else none

/-- Bytes still missing from a character, the bits collected, and the range of the next byte. -/
structure Partial where
  missing : Nat
  value : Nat
  low : Nat
  high : Nat

/-- What a byte does outside of a character: it is one, starts one, or is replaced. -/
def startByte (b : UInt8) : List Char × Option Partial :=
  if b.toNat < 0x80 then ([Char.ofNat b.toNat], none)
  else match leadByte? b with
    | some (value, missing, low, high) => ([], some ⟨missing, value, low, high⟩)
    | none => ([replacement], none)

/-- Decodes bytes, of which some may have started a character. -/
def decodeFrom : Option Partial → List UInt8 → List Char
  | none, [] => []
  | some _, [] => [replacement]
  | none, b :: rest =>
    let (chars, next) := startByte b
    chars ++ decodeFrom next rest
  | some p, b :: rest =>
    if p.low ≤ b.toNat ∧ b.toNat ≤ p.high then
      let value := p.value * 64 + (b.toNat - 0x80)
      if p.missing = 1 then Char.ofNat value :: decodeFrom none rest
      else decodeFrom (some ⟨p.missing - 1, value, 0x80, 0xBF⟩) rest
    else
      let (chars, next) := startByte b
      replacement :: chars ++ decodeFrom next rest

def decode (bytes : List UInt8) : String :=
  String.ofList (decodeFrom none bytes)

def encode (text : String) : List UInt8 :=
  text.toUTF8.toList

end TypedTree.Text
