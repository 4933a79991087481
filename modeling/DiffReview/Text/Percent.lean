import DiffReview.Text.Hexadecimal
import DiffReview.Text.Utf8

/-!
# Percent encoding

In an address or a form, a byte may stand as a percent sign with two hexadecimal digits.  Text is
encoded character by character: those that are safe stay, and of the others each byte is escaped.
-/

namespace DiffReview.Text

/-- Whether a character is ASCII. -/
def isAscii (character : Char) : Bool :=
  character.toNat < 0x80

namespace Percent

/-- The byte that two hexadecimal digits denote. -/
def hexByte? (high low : Char) : Option UInt8 :=
  (hexNumber? [high, low]).map UInt8.ofNat

/-- The bytes that ASCII text stands for; a percent sign without two digits stands for itself. -/
def decodeBytes : List Char → Bytes
  | '%' :: high :: low :: rest =>
    match hexByte? high low with
    | some byte => byte :: decodeBytes rest
    | none => 0x25 :: decodeBytes (high :: low :: rest)
  | character :: rest => UInt8.ofNat character.toNat :: decodeBytes rest
  | [] => []

/-- The text that a text with escapes stands for, given the ASCII characters directly before it in
reverse order.  Each run of ASCII characters is decoded by itself. -/
def decodeFrom (run : List Char) : List Char → List Char
  | [] => decodeUtf8Lossy (decodeBytes run.reverse)
  | character :: rest =>
    if isAscii character then
      decodeFrom (character :: run) rest
    else
      decodeUtf8Lossy (decodeBytes run.reverse) ++ character :: decodeFrom [] rest

/-- The text that a text with escapes stands for. -/
def decode (text : List Char) : List Char :=
  decodeFrom [] text

/-- A byte as an escape, with capital digits. -/
def escapeByte (byte : UInt8) : List Char :=
  '%' :: (hexDigits 2 byte.toNat).map Char.toUpper

/-- A character as it stands in encoded text. -/
def encodeCharacter (isSafe : Char → Bool) (character : Char) : List Char :=
  if isSafe character then [character]
  else (encodeUtf8 (String.ofList [character])).flatMap escapeByte

/-- A text with everything escaped that is not safe. -/
def encode (isSafe : Char → Bool) (text : List Char) : List Char :=
  text.flatMap (encodeCharacter isSafe)

theorem encode_append (isSafe : Char → Bool) (left right : List Char) :
    encode isSafe (left ++ right) = encode isSafe left ++ encode isSafe right := by
  simp [encode]

theorem encode_of_safe (isSafe : Char → Bool) (text : List Char)
    (safe : ∀ character ∈ text, isSafe character) : encode isSafe text = text := by
  induction text with
  | nil => rfl
  | cons head tail induction =>
    have headSafe := safe head List.mem_cons_self
    have tailSafe := induction fun character member =>
      safe character (List.mem_cons_of_mem _ member)
    simp only [encode] at tailSafe
    simp [encode, encodeCharacter, headSafe, tailSafe]

end Percent

end DiffReview.Text
