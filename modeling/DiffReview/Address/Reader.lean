import DiffReview.Address
import DiffReview.Address.Host
import DiffReview.Text.LooseInteger

/-!
# Reading addresses

A text is cut into the parts of an address, and each part is brought into its normal form: scheme
and host in small letters, the usual port left out, dots in the path resolved, and all characters
escaped that have no place in their part.  Escapes that are there stay as they are.
-/

namespace DiffReview.Address

open Text

/-! ## Parts -/

/-- Whether a character may stand in a scheme, after its first letter. -/
def isSchemeCharacter (character : Char) : Bool :=
  character.isAlphanum || character == '+' || character == '.' || character == '-'

/-- The scheme before a colon, and the text after it; a colon without a scheme is dropped. -/
def splitScheme (text : List Char) : List Char × List Char :=
  match text.dropWhile isSchemeCharacter with
  | ':' :: rest =>
    let scheme := text.takeWhile isSchemeCharacter
    if scheme.head?.all Char.isAlpha then (scheme, rest) else ([], text)
  | _ => ([], text)

/-- Whether a character is in none of the parts that a path ends. -/
def isPathCharacter (character : Char) : Bool :=
  character != '?' && character != '#'

/-- The part between two slashes and the path, and the text after it. -/
def splitAuthority : List Char → List Char × List Char
  | '/' :: '/' :: rest =>
    let inside (character : Char) : Bool := isPathCharacter character && character != '/'
    (rest.takeWhile inside, rest.dropWhile inside)
  | text => ([], text)

/-- The part after a mark, if the text starts with the mark. -/
def partAfter? (mark : Char) : List Char → Option (List Char)
  | [] => none
  | first :: rest => if first = mark then some rest else none

/-- The path, query and fragment of a text. -/
def splitPath (text : List Char) : List Char × Option (List Char) × Option (List Char) :=
  let rest := text.dropWhile isPathCharacter
  (text.takeWhile isPathCharacter,
    (partAfter? '?' rest).map fun query => query.takeWhile (· != '#'),
    partAfter? '#' (rest.dropWhile (· != '#')))

/-- The text before and after the last occurrence of a character. -/
def cutAtLast? (mark : Char) (text : List Char) : Option (List Char × List Char) :=
  match text.reverse.dropWhile (· != mark) with
  | [] => none
  | _ :: before => some (before.reverse, (text.reverse.takeWhile (· != mark)).reverse)

/-- The host before a port, and the port; a host in brackets ends with the last of them. -/
def splitHost (text : List Char) : List Char × List Char :=
  let plain := (text.takeWhile (· != ':'), text.dropWhile (· != ':'))
  let (host, rest) := match text, cutAtLast? ']' text with
    | '[' :: _, some (before, after) => (before ++ [']'], after)
    | _, _ => plain
  (host, (partAfter? ':' rest).getD rest)

/-! ## Normal forms -/

/-- Whether a character stays as it is where all visible characters do but the given ones. -/
def isVisibleBut (excluded : String) (character : Char) : Bool :=
  0x20 < character.toNat && character.toNat < 0x7F && !excluded.toList.contains character

/-- Whether a character stays as it is in a path. -/
def isPathSafe : Char → Bool := isVisibleBut "\"#<>?`\x7b\x7d"

/-- Whether a character stays as it is in a query. -/
def isQuerySafe : Char → Bool := isVisibleBut "\"#<>"

/-- Whether a character stays as it is in a fragment. -/
def isFragmentSafe : Char → Bool := isVisibleBut "\"<>`"

/-- Whether a character stays as it is in the part about who speaks. -/
def isUserinfoSafe : Char → Bool := isVisibleBut "\"#<>?`\x7b\x7d/;=@[\\]^|"

/-- The schemes with a usual port. -/
def usualPorts : List (String × Int) :=
  [("ftp", 21), ("http", 80), ("https", 443), ("ws", 80), ("wss", 443)]

/-- The port that a text denotes; none if it is the usual one of the scheme, or the text is
empty. -/
def normalPort (scheme text : List Char) : Except AddressFault (Option Int) :=
  if text.isEmpty then
    .ok none
  else
    match looseInteger? text with
    | none => .error (.port text)
    | some port =>
      .ok (if usualPorts.lookup (String.ofList scheme) = some port then none else some port)

/-- A check of the path of an address without scheme and host, which must not look like either. -/
def checkLonePath (path : List Char) : Except AddressFault Unit :=
  match path with
  | '/' :: '/' :: _ => .error .doubleSlash
  | ':' :: _ => .error .leadingColon
  | _ => .ok ()

/-! ## Addresses -/

/-- The most characters of an address. -/
def maxLength : Nat := 65536

/-- Whether a character is an ASCII control character. -/
def isControl (character : Char) : Bool :=
  character.toNat < 0x20 || character.toNat == 0x7F

/-- The address with the parts of a text. -/
def ofParts (text : List Char) : Except AddressFault Address := do
  let (scheme, rest) := splitScheme text
  let (authority, rest) := splitAuthority rest
  let (path, query, fragment) := splitPath rest
  let (userinfo, hostAndPort) := (cutAtLast? '@' authority).getD ([], authority)
  let (host, port) := splitHost hostAndPort
  let address : Address :=
    { scheme := lower scheme
      userinfo := Percent.encode isUserinfoSafe userinfo
      host := ← Host.normal host
      port := ← normalPort scheme port
      query := query.map (Percent.encode isQuerySafe)
      fragment := fragment.map (Percent.encode isFragmentSafe) }
  let isLone := address.scheme.isEmpty && address.authority.isEmpty
  if isLone then
    checkLonePath path
  return { address with
    path := Percent.encode isPathSafe (if isLone then path else normalPath path) }

/-- The address that a text denotes. -/
def read (text : List Char) : Except AddressFault Address :=
  if maxLength < text.length then
    .error .tooLong
  else
    match text.dropWhile (!isControl ·) with
    | character :: rest => .error (.controlCharacter character (text.length - (rest.length + 1)))
    | [] => ofParts text

end DiffReview.Address
