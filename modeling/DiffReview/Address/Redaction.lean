import DiffReview.Address.Reader
import DiffReview.Text.Replace

/-!
# Hiding credentials

Before an address is shown, the name and the password in it are hidden.  This is done for any text
that can be cut like an address; another text is shown as it is.
-/

namespace DiffReview.Address

open Text

/-- What is shown in place of a name or a password. -/
def mask : List Char := "*****".toList

/-- A text without the control characters and spaces at its start, and without tabs and line
ends. -/
def withoutControls (text : List Char) : List Char :=
  (text.dropWhile (·.toNat ≤ 0x20)).filter fun character =>
    character != '\t' && character != '\r' && character != '\n'

/-- Characters that stand for text in which there is a delimiter. -/
def delimiterLookalikes : List Nat :=
  [0x2047, 0x2048, 0x2049, 0x2100, 0x2101, 0x2105, 0x2106, 0x2A74, 0xFE13, 0xFE16, 0xFE55, 0xFE56,
    0xFE5F, 0xFE6B, 0xFF03, 0xFF0F, 0xFF1A, 0xFF1F, 0xFF20]

/-- Whether the text between the first two brackets of an authority can be a host: groups of
hexadecimal digits, or a letter V with a hexadecimal version, a point and something more. -/
def isHostInBrackets (authority : List Char) : Bool :=
  let inner := ((authority.dropWhile (· != '[')).drop 1).takeWhile (· != ']')
  match inner with
  | 'v' :: rest =>
    let version := rest.takeWhile (· != '.')
    !version.isEmpty && version.all isHexDigit &&
      1 < (rest.dropWhile (· != '.')).length
  | _ => Host.isGrouped inner

/-- Whether an authority can belong to an address. -/
def isPlausible (authority : List Char) : Bool :=
  !(authority.any fun character => delimiterLookalikes.contains character.toNat) &&
    match authority.contains '[', authority.contains ']' with
    | false, false => true
    | true, true => isHostInBrackets authority
    | _, _ => false

/-- An authority with the name and the password in it hidden wherever they stand in it. -/
def hideIn (authority userinfo : List Char) : List Char :=
  let isPart (character : Char) : Bool := character != ':'
  let hidden := match userinfo.dropWhile isPart with
    | _ :: password => replaceAll password mask authority
    | [] => authority
  replaceAll (userinfo.takeWhile isPart) mask hidden

/-- A text as it is shown. -/
def redact (text : List Char) : List Char :=
  let cleaned := withoutControls text
  let (scheme, rest) := if cleaned.head? = some ':' then ([], cleaned) else splitScheme cleaned
  let (authority, rest) := splitAuthority rest
  match cutAtLast? '@' authority with
  | some (userinfo, _) =>
    if isPlausible authority then
      let (path, query, fragment) := splitPath rest
      let part (mark : Char) (content : Option (List Char)) : List Char :=
        (content.filter (!·.isEmpty)).elim [] (mark :: ·)
      (if scheme.isEmpty then [] else lower scheme ++ [':']) ++
        '/' :: '/' :: hideIn authority userinfo ++ path ++ part '?' query ++ part '#' fragment
    else
      text
  | none => text

end DiffReview.Address
