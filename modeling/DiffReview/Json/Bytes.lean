import DiffReview.Json.Reader
import DiffReview.Text.WideUnits

/-!
# JSON in bytes

The encoding of JSON text is told by its first bytes: by a byte order mark, or else by the zero
bytes around its first character, which is ASCII.
-/

namespace DiffReview.Json

open Text

/-- An encoding of JSON text. -/
inductive Encoding
  | utf8
  | utf16 (order : ByteOrder)
  | utf32 (order : ByteOrder)
deriving DecidableEq, Repr

namespace Encoding

/-- The code points of some bytes. -/
def decode? : Encoding → Bytes → Option (List CodePoint)
  | utf8 => decodePoints?
  | utf16 order => decodeUtf16? order
  | utf32 order => decodeUtf32? order

end Encoding

/-- The byte order marks with their encodings.  The longer ones come first, for one of them starts
with a shorter one. -/
def byteOrderMarks : List (Bytes × Encoding) :=
  [([0x00, 0x00, 0xFE, 0xFF], .utf32 .big), ([0xFF, 0xFE, 0x00, 0x00], .utf32 .little),
    ([0xFE, 0xFF], .utf16 .big), ([0xFF, 0xFE], .utf16 .little), ([0xEF, 0xBB, 0xBF], .utf8)]

/-- The encoding of bytes without a mark.  Of three bytes, and of a single one, none tells more than
that they are UTF-8. -/
def guessEncoding : Bytes → Encoding
  | first :: second :: third :: fourth :: _ =>
    if first = 0 then
      if second = 0 then .utf32 .big else .utf16 .big
    else if second = 0 then
      if third = 0 ∧ fourth = 0 then .utf32 .little else .utf16 .little
    else
      .utf8
  | [first, second] =>
    if first = 0 then .utf16 .big
    else if second = 0 then .utf16 .little
    else .utf8
  | _ => .utf8

/-- The encoding of some bytes, and the bytes without a mark. -/
def detectEncoding (bytes : Bytes) : Encoding × Bytes :=
  let marked := byteOrderMarks.findSome? fun (mark, encoding) =>
    (mark.isPrefixOf? bytes).map fun rest => (encoding, rest)
  marked.getD (guessEncoding bytes, bytes)

/-- Why some bytes are no JSON value. -/
inductive BytesError
  /-- The bytes are no text. -/
  | undecodable
  /-- The text is no JSON value. -/
  | invalid (error : JsonError)
deriving DecidableEq, Repr

/-- The value that some bytes denote. -/
def readBytes (nesting : Nat) (bytes : Bytes) : Except BytesError Json :=
  let (encoding, content) := detectEncoding bytes
  match encoding.decode? content with
  | none => .error .undecodable
  | some points =>
    match read nesting points with
    | .ok value => .ok value
    | .error error => .error (.invalid error)

end DiffReview.Json
