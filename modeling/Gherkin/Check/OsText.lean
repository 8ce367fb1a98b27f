import Gherkin.Text.Basic

/-!
# Texts of the operating system

Names of files and arguments of programs are bytes. Mostly they are the UTF-8 form of a text, but
nothing makes them so: bytes that are part of no character stay what they are, and where a text is
to be shown a mark stands for them.
-/

namespace Gherkin

/-- A text of the operating system is the list of its bytes. -/
abbrev OsText := List UInt8

namespace OsText

/-- The UTF-8 form of a text. -/
def ofText (t : Text) : OsText := t.flatMap String.utf8EncodeChar

instance : Coe Text OsText := ⟨ofText⟩

/-- A piece of a text of the operating system: a character, or bytes that are part of none. -/
inductive Piece where
  | char (c : Char)
  | stray (bytes : OsText)
  deriving DecidableEq, Repr

namespace Piece

def bytes : Piece → OsText
  | char c => String.utf8EncodeChar c
  | stray bytes => bytes

def char? : Piece → Option Char
  | char c => some c
  | stray _ => none

end Piece

/-- The ranges of the bytes that follow a first byte in well-formed UTF-8. -/
def followers (b : UInt8) : List (UInt8 × UInt8) :=
  let tail : UInt8 × UInt8 := (0x80, 0xBF)
  if b < 0xC2 then []
  else if b < 0xE0 then [tail]
  else if b = 0xE0 then [(0xA0, 0xBF), tail]
  else if b = 0xED then [(0x80, 0x9F), tail]
  else if b < 0xF0 then [tail, tail]
  else if b = 0xF0 then [(0x90, 0xBF), tail, tail]
  else if b < 0xF4 then [tail, tail, tail]
  else if b = 0xF4 then [(0x80, 0x8F), tail, tail]
  else []

/-- The bytes that lie in the ranges, one after the other. -/
def within : List (UInt8 × UInt8) → OsText → OsText
  | (low, high) :: ranges, b :: rest =>
    if low ≤ b ∧ b ≤ high then b :: within ranges rest else []
  | _, _ => []

/-- The piece that begins with a byte. Bytes that could begin a character, but do not, are stray
together. -/
def nextPiece (b : UInt8) (rest : OsText) : Piece :=
  match ByteArray.utf8DecodeChar? (b :: rest).toByteArray 0 with
  | some c => .char c
  | none => .stray (b :: within (followers b) rest)

def pieces : OsText → List Piece
  | [] => []
  | b :: rest =>
    let piece := nextPiece b rest
    piece :: pieces (rest.drop (piece.bytes.length - 1))
termination_by bytes => bytes.length

/-- The text whose UTF-8 form the bytes are. -/
def text? (bytes : OsText) : Option Text := (pieces bytes).mapM Piece.char?

/-- The bytes as a text, with a replacement character for each stray piece. -/
def display (bytes : OsText) : Text := (pieces bytes).map fun p ↦ p.char?.getD '\uFFFD'

end OsText

end Gherkin
