import DiffReview.Text.Quoted

/-!
# Faults of addresses
-/

namespace DiffReview

open Text

/-- Why a text is no address. -/
inductive AddressFault
  /-- The text is too long. -/
  | tooLong
  /-- A control character stands in the text. -/
  | controlCharacter (character : Char) (position : Nat)
  /-- The host looks like four numbers, and is not. -/
  | numbers (host : List Char)
  /-- The host stands in brackets, and is not made of groups of hexadecimal digits. -/
  | groups (host : List Char)
  /-- The host has characters beyond ASCII that make no sound labels. -/
  | name (host : List Char)
  /-- The port is no number. -/
  | port (text : List Char)
  /-- The path of an address without host starts with two slashes. -/
  | doubleSlash
  /-- The path of an address without host starts with a colon. -/
  | leadingColon
deriving DecidableEq, Repr

namespace AddressFault

/-- The wording of a fault. -/
def message : AddressFault → String
  | tooLong => "URL too long"
  | controlCharacter character position =>
    let shown := String.ofList (quoted [character])
    s!"Invalid non-printable ASCII character in URL, {shown} at position {position}."
  | numbers host => s!"Invalid IPv4 address: {String.ofList (quoted host)}"
  | groups host => s!"Invalid IPv6 address: {String.ofList (quoted host)}"
  | name host => s!"Invalid IDNA hostname: {String.ofList (quoted host)}"
  | port text => s!"Invalid port: {String.ofList (quoted text)}"
  | doubleSlash => "Relative URLs cannot have a path starting with '//'"
  | leadingColon => "Relative URLs cannot have a path starting with ':'"

end AddressFault

end DiffReview
