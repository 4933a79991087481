import DiffReview.Text.CodePoint

/-!
# UTF-8

Bytes are decoded one by one.  A byte that cannot continue a sequence ends it as ill formed and is
looked at afresh.  Sequences for surrogates are ill formed unless they are let through.
-/

namespace DiffReview.Text

/-- The bytes of a message. -/
abbrev Bytes := List UInt8

/-- A sequence of bytes that is not complete. -/
structure OpenSequence where
  /-- The bits so far. -/
  code : Nat
  /-- How many bytes are missing; at least one. -/
  missing : Nat
  /-- The least next byte. -/
  least : Nat := 0x80
  /-- The greatest next byte. -/
  greatest : Nat := 0xBF
deriving DecidableEq, Repr

/-- What a byte at the start of a sequence means. -/
inductive LeadByte
  /-- The byte is an ASCII character. -/
  | ascii
  /-- The byte opens a sequence. -/
  | opening (sequence : OpenSequence)
  /-- No sequence starts with the byte. -/
  | illFormed
deriving DecidableEq, Repr

/-- What a byte at the start of a sequence means, if surrogates are let through or not.  The range
of the second byte excludes longer forms than needed and code points beyond the last. -/
def leadByte (surrogates : Bool) (byte : Nat) : LeadByte :=
  if byte < 0x80 then .ascii
  else if byte < 0xC2 then .illFormed
  else if byte < 0xE0 then .opening { code := byte - 0xC0, missing := 1 }
  else if byte = 0xE0 then .opening { code := 0, missing := 2, least := 0xA0 }
  else if byte = 0xED ∧ !surrogates then .opening { code := 0xD, missing := 2, greatest := 0x9F }
  else if byte < 0xF0 then .opening { code := byte - 0xE0, missing := 2 }
  else if byte = 0xF0 then .opening { code := 0, missing := 3, least := 0x90 }
  else if byte < 0xF4 then .opening { code := byte - 0xF0, missing := 3 }
  else if byte = 0xF4 then .opening { code := 4, missing := 3, greatest := 0x8F }
  else .illFormed

/-- The code points that are complete after a byte at the start of a sequence, and the sequence that
is open; `none` stands for an ill-formed sequence. -/
def decodeLead (surrogates : Bool) (byte : UInt8) : List (Option CodePoint) × Option OpenSequence :=
  match leadByte surrogates byte.toNat with
  | .ascii => ([CodePoint.ofNat? byte.toNat], none)
  | .opening sequence => ([], some sequence)
  | .illFormed => ([none], none)

/-- The code points that are complete after one more byte, and the sequence that is open. -/
def decodeByte (surrogates : Bool) :
    Option OpenSequence → UInt8 → List (Option CodePoint) × Option OpenSequence
  | none, byte => decodeLead surrogates byte
  | some sequence, byte =>
    if sequence.least ≤ byte.toNat ∧ byte.toNat ≤ sequence.greatest then
      let code := sequence.code * 0x40 + byte.toNat % 0x40
      if sequence.missing = 1 then
        ([CodePoint.ofNat? code], none)
      else
        ([], some { code, missing := sequence.missing - 1 })
    else
      let (points, after) := decodeLead surrogates byte
      (none :: points, after)

/-- The code points of some bytes that follow an open sequence; `none` stands for an ill-formed
sequence. -/
def decodeFrom (surrogates : Bool) : Option OpenSequence → Bytes → List (Option CodePoint)
  | none, [] => []
  | some _, [] => [none]
  | state, byte :: rest =>
    let (points, after) := decodeByte surrogates state byte
    points ++ decodeFrom surrogates after rest

/-- The code points of some bytes, surrogates let through, if no sequence is ill formed. -/
def decodePoints? (bytes : Bytes) : Option (List CodePoint) :=
  (decodeFrom true none bytes).mapM id

/-- The text of some bytes, if no sequence is ill formed. -/
def decodeUtf8? (bytes : Bytes) : Option (List Char) :=
  (decodeFrom false none bytes).mapM fun point => point.bind CodePoint.character?

/-- The text of some bytes, with a replacement character for each ill-formed sequence. -/
def decodeUtf8Lossy (bytes : Bytes) : List Char :=
  (decodeFrom false none bytes).map fun point =>
    (point.bind CodePoint.character?).getD replacementCharacter

/-- The bytes of a text. -/
def encodeUtf8 (text : String) : Bytes :=
  text.toUTF8.toList

end DiffReview.Text
