import DiffReview.Text.Percent

/-!
# Addresses

An address says how a host is to be spoken to and what is wanted of it.  One without a scheme or a
host only says what is wanted; it can be completed by another address, from which it takes the rest.
-/

namespace DiffReview

/-- An address, with every part in its normal form. -/
structure Address where
  /-- How the host is spoken to. -/
  scheme : List Char := []
  /-- Who speaks to the host: a name, perhaps with a colon and a password. -/
  userinfo : List Char := []
  /-- The host. -/
  host : List Char := []
  /-- The port, where it is not the usual one. -/
  port : Option Int := none
  /-- What is wanted. -/
  path : List Char := []
  /-- More about what is wanted. -/
  query : Option (List Char) := none
  /-- A place in the answer. -/
  fragment : Option (List Char) := none
deriving DecidableEq, Repr

namespace Address

/-- The host with all that belongs to it. -/
def authority (address : Address) : List Char :=
  let user := if address.userinfo.isEmpty then [] else address.userinfo ++ ['@']
  let host := if address.host.contains ':' then '[' :: address.host ++ [']'] else address.host
  user ++ host ++ address.port.elim [] fun port => ':' :: (toString port).toList

/-- The text of an address. -/
def text (address : Address) : List Char :=
  (if address.scheme.isEmpty then [] else address.scheme ++ [':']) ++
    (if address.authority.isEmpty then [] else '/' :: '/' :: address.authority) ++ address.path ++
    address.query.elim [] ('?' :: ·) ++ address.fragment.elim [] ('#' :: ·)

/-- Whether an address says which host is spoken to, and how. -/
def isAbsolute (address : Address) : Bool :=
  !address.scheme.isEmpty && !address.host.isEmpty

/-- What is wanted of the host; at least its root. -/
def wanted (address : Address) : List Char :=
  if address.path.isEmpty then ['/'] else address.path

/-- A path without its parts of a single dot, and without those that a part of two dots takes
back. -/
def normalPath (path : List Char) : List Char :=
  let add (parts : List (List Char)) (part : List Char) : List (List Char) :=
    if part = ['.'] then parts
    else if part = ['.', '.'] then if parts = [[]] then parts else parts.drop 1
    else part :: parts
  ['/'].intercalate ((path.splitOn '/').foldl add []).reverse

/-- The address that asks the host of the first one for what the second one wants; the second one
unchanged if it has a host of its own. -/
def complete (base given : Address) : Address :=
  if given.isAbsolute then
    given
  else
    let path := '/' :: given.wanted.dropWhile (· == '/')
    { scheme := base.scheme
      userinfo := base.userinfo
      host := base.host
      port := base.port
      path := if base.isAbsolute then normalPath path else path
      query := given.query }

/-- The name and the password of whoever speaks to the host, if either is given. -/
def credentials? (address : Address) : Option (List Char × List Char) :=
  if address.userinfo.all (· == ':') && address.userinfo.length < 2 then
    none
  else
    let isPart (character : Char) : Bool := character != ':'
    some (Text.Percent.decode (address.userinfo.takeWhile isPart),
      Text.Percent.decode ((address.userinfo.dropWhile isPart).drop 1))

end Address

end DiffReview
