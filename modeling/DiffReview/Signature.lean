import DiffReview.Signature.Sha256
import DiffReview.Text.Hexadecimal

/-!
# Signatures

A message is signed with a secret that only the two ends know: by its keyed hash, written in
hexadecimal digits.
-/

namespace DiffReview.Signature

open Text (Bytes encodeUtf8 hexDigits)

/-- A secret as a block: hashed if it is longer, and filled with zeros. -/
def keyBlock (secret : Bytes) : Bytes :=
  let key := if Sha256.blockSize < secret.length then Sha256.hash secret else secret
  key ++ List.replicate (Sha256.blockSize - key.length) 0

/-- The keyed hash of a message. -/
def keyedHash (secret message : Bytes) : Bytes :=
  let key := keyBlock secret
  let inner := Sha256.hash (key.map (· ^^^ 0x36) ++ message)
  Sha256.hash (key.map (· ^^^ 0x5C) ++ inner)

/-- A byte as two small hexadecimal digits. -/
def hexByte (byte : UInt8) : List Char :=
  hexDigits 2 byte.toNat

/-- The signature of a message. -/
def sign (secret : String) (message : Bytes) : String :=
  "sha256=" ++ String.ofList ((keyedHash (encodeUtf8 secret) message).flatMap hexByte)

/-- Whether a signature is that of a message; none at all never is. -/
def isValid (secret : String) (message : Bytes) (signature : Option String) : Bool :=
  signature.any fun text => text == sign secret message

end DiffReview.Signature
