import DiffReview.Address.Fault
import DiffReview.Address.HostName
import DiffReview.Text.LetterCase
import DiffReview.Text.Percent

/-!
# Hosts

The host of an address is four numbers, or groups of hexadecimal digits in brackets, or a name.  A
host that looks like one of the first two kinds has to be of that kind.
-/

namespace DiffReview.Address.Host

open Text

/-- Whether a character may stand in an address as it is wherever it has no other meaning. -/
def isUnreserved (character : Char) : Bool :=
  character.isAlphanum || character == '-' || character == '.' || character == '_' ||
    character == '~'

/-- Whether a character stays as it is in the name of a host. -/
def isSafe (character : Char) : Bool :=
  isUnreserved character || "!$&'()*+,;=\"`\x7b\x7d%|\\".toList.contains character

/-! ## Four numbers -/

/-- The steps towards four runs of digits with a character between any two: an even number of steps
calls for a digit, after an odd one digits or any character may follow. -/
def advance (steps : List Nat) (character : Char) : List Nat :=
  (steps.flatMap fun step =>
    (if character.isDigit then [if step % 2 = 0 then step + 1 else step] else []) ++
      (if step % 2 = 1 ∧ step < 7 then [step + 1] else [])).eraseDups

/-- Whether a host looks like four numbers: four runs of digits with any character between two. -/
def looksNumeric (host : List Char) : Bool :=
  (host.foldl advance [0]).contains 7

/-- Whether a text is a number below 256 without needless zeros. -/
def isByte (text : List Char) : Bool :=
  !text.isEmpty && text.length ≤ 3 && text.all Char.isDigit &&
    (text.head? != some '0' || text == ['0']) &&
    (text.foldl (fun value digit => 10 * value + (digit.toNat - '0'.toNat)) 0) < 256

/-- Whether a text is four numbers below 256 with dots between them. -/
def isFourNumbers (text : List Char) : Bool :=
  let parts := text.splitOn '.'
  parts.length == 4 && parts.all isByte

/-! ## Groups of hexadecimal digits -/

/-- Whether a text is a group of hexadecimal digits. -/
def isGroup (text : List Char) : Bool :=
  !text.isEmpty && text.length ≤ 4 && text.all isHexDigit

/-- The groups of a text between its colons, where four numbers at the end count as two groups. -/
def groupsOf? (text : List Char) : Option (List (List Char)) :=
  let parts := text.splitOn ':'
  let final := parts.getLast?.getD []
  if parts.length < 3 then none
  else if !final.contains '.' then some parts
  else if isFourNumbers final then some (parts.dropLast ++ [['0'], ['0']])
  else none

/-- Whether some parts are eight groups, or fewer with one gap inside: an empty part, which at an
end stands together with a second one. -/
def areEightGroups (parts : List (List Char)) : Bool :=
  let inner := (parts.drop 1).dropLast
  match inner.count [] with
  | 0 => parts.length == 8 && parts.all isGroup
  | 1 =>
    let before := parts.takeWhile (!·.isEmpty)
    let after := (parts.reverse.takeWhile (!·.isEmpty)).reverse
    let startsWell := parts.head? != some [] || (parts[1]?).any List.isEmpty
    let endsWell := parts.getLast? != some [] || (parts[parts.length - 2]?).any List.isEmpty
    startsWell && endsWell && parts.length ≤ 9 && before.length + after.length < 8 &&
      (before ++ after).all isGroup
  | _ => false

/-- Whether a text is made of groups of hexadecimal digits, perhaps with a zone after a percent
sign. -/
def isGrouped (text : List Char) : Bool :=
  let zone := text.dropWhile (· != '%')
  (zone.isEmpty || (1 < zone.length && !(zone.drop 1).contains '%')) &&
    (groupsOf? (text.takeWhile (· != '%'))).any areEightGroups

/-! ## All hosts -/

/-- Whether a host stands in brackets. -/
def isBracketed (host : List Char) : Bool :=
  1 < host.length && host.head? == some '[' && host.getLast? == some ']'

/-- The normal form of a host: without brackets, in small letters and with ASCII characters only. -/
def normal (host : List Char) : Except AddressFault (List Char) :=
  if host.isEmpty then
    .ok []
  else if looksNumeric host then
    if isFourNumbers host then .ok host else .error (.numbers host)
  else if isBracketed host then
    let inner := (host.drop 1).dropLast
    if isGrouped inner then .ok inner else .error (.groups host)
  else if host.all isAscii then
    .ok (Percent.encode isSafe (lower host))
  else
    (HostName.encode? (lower host)).elim (.error (.name host)) .ok

end DiffReview.Address.Host
