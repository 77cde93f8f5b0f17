import TexLog.Text.Notation

/-!
# UTF-8

Encoding and decoding. Bytes are cut into characters and ill-formed sequences, where an ill-formed
sequence is as long as it could still have been the start of a character. `decode` replaces each of
them by the replacement character; `decode?` refuses the first one and tells where it lies.
-/

namespace TexLog

/-- The contents of a file. -/
abbrev Bytes := List UInt8

namespace Utf8

/-- The bytes of a text. -/
def encode (text : Text) : Bytes := text.flatMap String.utf8EncodeChar

/-- What is wrong with an ill-formed sequence. -/
inductive Flaw
  /-- No character starts with its byte. -/
  | start
  /-- The byte after it does not continue it. -/
  | continuation
  /-- Nothing comes after it. -/
  | ending
  deriving DecidableEq, Repr

/-- A part of decoded bytes. -/
inductive Piece
  /-- A character. -/
  | char (c : Char)
  /-- An ill-formed sequence. -/
  | illFormed (bytes : Bytes) (flaw : Flaw)
  deriving DecidableEq

/-- The character that a piece stands for when ill-formed sequences are replaced. -/
def Piece.toChar : Piece → Char
  | char c => c
  | illFormed .. => '\ufffd'

/-- A character of which some bytes have been read. -/
structure Begun where
  /-- The bytes that have been read. -/
  bytes : Bytes
  /-- The bits of the code that they carry. -/
  code : Nat
  /-- How many bytes come after the next one. -/
  after : Nat
  /-- The least value of the next byte. -/
  least : UInt8 := 0x80
  /-- The greatest value of the next byte. -/
  greatest : UInt8 := 0xBF

/-- What comes out of a byte: finished pieces, and the character that is not finished. -/
abbrev Step := List Piece × Option Begun

/-- The start of a character whose first byte carries the given bits of the code. -/
def begin (byte : UInt8) (bits after : Nat) (least greatest : UInt8) : Step :=
  ([], some ⟨[byte], bits, after, least, greatest⟩)

/-- Takes a byte where a character starts. After some first bytes the second one is restricted: a
character has no longer form than it needs, is no surrogate, and lies below `0x110000`. -/
def first (byte : UInt8) : Step :=
  if byte < 0x80 then ([.char (Char.ofNat byte.toNat)], none)
  else if byte < 0xC2 then ([.illFormed [byte] .start], none)
  else if byte < 0xE0 then begin byte (byte.toNat % 0x20) 0 0x80 0xBF
  else if byte < 0xF0 then
    begin byte (byte.toNat % 0x10) 1 (if byte = 0xE0 then 0xA0 else 0x80)
      (if byte = 0xED then 0x9F else 0xBF)
  else if byte < 0xF5 then
    begin byte (byte.toNat % 0x8) 2 (if byte = 0xF0 then 0x90 else 0x80)
      (if byte = 0xF4 then 0x8F else 0xBF)
  else ([.illFormed [byte] .start], none)

/-- Takes the next byte. -/
def next (begun : Option Begun) (byte : UInt8) : Step :=
  match begun with
  | none => first byte
  | some begun =>
    if begun.least ≤ byte ∧ byte ≤ begun.greatest then
      let code := 64 * begun.code + byte.toNat % 64
      match begun.after with
      | 0 => ([.char (Char.ofNat code)], none)
      | after + 1 => ([], some { bytes := begun.bytes ++ [byte], code, after })
    else
      let (pieces, begun') := first byte
      (.illFormed begun.bytes .continuation :: pieces, begun')

/-- The piece that the end of the bytes makes of a character that is not finished. -/
def cutOff (begun : Begun) : Piece := .illFormed begun.bytes .ending

/-- The pieces of bytes that come after the start of a character, in front of which other pieces
stand, latest first. -/
def piecesAfter (done : List Piece) (begun : Option Begun) : Bytes → List Piece
  | [] => done.reverse ++ (begun.map cutOff).toList
  | byte :: rest =>
    let (pieces, begun) := next begun byte
    piecesAfter (pieces.reverseAux done) begun rest

/-- The pieces of bytes. -/
def pieces (bytes : Bytes) : List Piece := piecesAfter [] none bytes

/-- The text of bytes, with a replacement character for each ill-formed sequence. -/
def decode (bytes : Bytes) : Text := (pieces bytes).map Piece.toChar

/-- The first ill-formed sequence of some bytes. -/
structure Malformed where
  /-- How many bytes lie before it. -/
  position : Nat
  /-- Its bytes. -/
  bytes : Bytes
  /-- What is wrong with it. -/
  flaw : Flaw
  deriving DecidableEq

/-- The characters of pieces, after those read already, latest first, if no piece is ill-formed;
`position` bytes lie before. -/
def charsOf (position : Nat) (done : Text) : List Piece → Except Malformed Text
  | [] => .ok done.reverse
  | .char c :: rest => charsOf (position + c.utf8Size) (c :: done) rest
  | .illFormed bytes flaw :: _ => .error ⟨position, bytes, flaw⟩

/-- The text of bytes without ill-formed sequences. -/
def decode? (bytes : Bytes) : Except Malformed Text := charsOf 0 [] (pieces bytes)

/-- The words for a flaw. -/
def Flaw.message : Flaw → Text
  | start => "invalid start byte".toList
  | continuation => "invalid continuation byte".toList
  | ending => "unexpected end of data".toList

/-- The words for an ill-formed sequence. -/
def Malformed.message (malformed : Malformed) : Text :=
  let place := match malformed.bytes with
    | [byte] =>
      "byte 0x".toList ++ Text.hex 2 byte.toNat ++ " in position ".toList ++
        Text.ofNat malformed.position
    | bytes =>
      "bytes in position ".toList ++ Text.ofNat malformed.position ++ '-' ::
        Text.ofNat (malformed.position + bytes.length - 1)
  "'utf-8' codec can't decode ".toList ++ place ++ ": ".toList ++ malformed.flaw.message

end Utf8

/-! ## Names of files

The names of files are bytes. A string stands for the bytes of its characters; a byte that belongs
to no character is written as half of a pair.
-/

/-- Whether a symbol can be part of the name of a file: it is a character, or the half of a pair
that stands for a byte beyond ASCII. -/
def Symbol.isEncodable : Symbol → Bool
  | char _ => true
  | half index => 0x480 ≤ index.val && index.val < 0x500

/-- The bytes of a symbol that can be part of the name of a file. -/
def Symbol.bytes : Symbol → Bytes
  | char c => String.utf8EncodeChar c
  | half index => [UInt8.ofNat (index - 0x400)]

namespace Str

/-- Whether a string can be the name of a file. -/
def isEncodable (str : Str) : Bool := str.all Symbol.isEncodable

/-- The bytes of a string that can be the name of a file. -/
def bytes (str : Str) : Bytes := str.flatMap Symbol.bytes

/-- The words for a string that cannot be the name of a file. -/
def unencodableMessage (str : Str) : Text :=
  let first := (str.takeWhile Symbol.isEncodable).length
  let halves := (str.drop first).takeWhile Symbol.isHalf
  let place := match halves with
    | [_] => "character ".toList ++ Str.quoted halves ++ " in position ".toList ++ Text.ofNat first
    | _ =>
      "characters in position ".toList ++ Text.ofNat first ++ '-' ::
        Text.ofNat (first + halves.length - 1)
  "'utf-8' codec can't encode ".toList ++ place ++ ": surrogates not allowed".toList

@[simp] theorem isEncodable_ofText (text : Text) : isEncodable text = true := by
  simp [isEncodable, ofText, Symbol.isEncodable]

@[simp] theorem bytes_ofText (text : Text) : bytes text = Utf8.encode text := by
  simp [bytes, ofText, Utf8.encode, List.flatMap_map, Symbol.bytes]

end Str

end TexLog
