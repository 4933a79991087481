import DiffReview.Pattern.Search

/-!
# Paths

What the path of a file says about reviewing it: whether it is left out altogether (tests, lock
files, generated output), and how early it is reviewed.  Both are told by patterns, which disregard
case.  A line feed at the very end of a path is overlooked where a name has to end.
-/

namespace DiffReview.Path

/-! ## Files that are left out -/

/-- The start of a path, or one of the characters that separate its parts. -/
def partStart (separates : Char → Bool) : Pattern :=
  .alt .textStart (.one separates)

/-- Whether a character separates the names in a path. -/
def isNameSeparator (character : Char) : Bool :=
  character == '/'

/-- Whether a character can stand in the name of a file or directory. -/
def isNameCharacter (character : Char) : Bool :=
  !isNameSeparator character

/-- What the directories are called whose files are left out. -/
def excludedDirectories : List Pattern :=
  [ -- tests
    .anyWord ["__tests__", "test", "tests", "spec"],
    -- build output
    .anyWord ["dist", "build", "out", "target", "coverage", "node_modules", "vendor", ".next",
      ".nuxt"],
    -- snapshots
    .anyWord ["__snapshots__"] ]

/-- What the files are called that are left out. -/
def excludedNames : List Pattern :=
  [ -- tests
    .sequence [.folded "test_", .someOf isNameCharacter, .folded ".py"],
    -- resolved dependencies
    .anyWord ["package-lock.json", "npm-shrinkwrap.json", "yarn.lock", "pnpm-lock.yaml", "bun.lock",
      "bun.lockb", "poetry.lock", "pipfile.lock", "uv.lock", "cargo.lock", "gemfile.lock",
      "composer.lock", "go.sum"],
    -- generated code
    .sequence [.run isNameCharacter, .folded ".generated.", .someOf isNameCharacter] ]

/-- In what the names of files end that are left out. -/
def excludedEndings : List Pattern :=
  [ -- tests
    .sequence [.folded ".", .anyWord ["test", "spec"], .folded ".", .someOf isNameCharacter],
    .sequence [.folded "_test.", .anyWord ["py", "go"]],
    -- resolved dependencies
    .folded ".lock",
    -- minified, bundled and generated code
    .sequence [.folded ".min.", .anyWord ["js", "css"]],
    .folded ".bundle.js",
    .folded ".map",
    .sequence [.folded "_pb2", .optional (.folded "_grpc"), .folded ".py"],
    .folded ".pb.go",
    -- type declarations
    .folded ".d.ts",
    -- snapshots
    .folded ".snap" ]

/-- A path below a directory that is called so. -/
def belowDirectory (name : Pattern) : Pattern :=
  .sequence [partStart isNameSeparator, name, .one isNameSeparator]

/-- A path of a file that is called so. -/
def named (name : Pattern) : Pattern :=
  .sequence [partStart isNameSeparator, name, .textEnd]

/-- A path that ends so. -/
def endingIn (ending : Pattern) : Pattern :=
  .sequence [ending, .textEnd]

/-- The paths of the files that are left out. -/
def excludedPaths : List Pattern :=
  excludedDirectories.map belowDirectory ++ excludedNames.map named ++ excludedEndings.map endingIn

/-- Whether the file at a path is left out of review. -/
def isExcluded (path : String) : Bool :=
  excludedPaths.any fun pattern => pattern.occursIn path.toList

/-! ## How early files are reviewed -/

/-- How early a file is reviewed, the earliest first. -/
inductive Tier
  /-- What guards accounts, money and secrets. -/
  | security
  /-- What answers requests. -/
  | interface
  /-- What describes and stores data. -/
  | data
  /-- What supports other code. -/
  | support
  /-- Everything else. -/
  | general
  /-- What looks like a test. -/
  | testLike
deriving DecidableEq, Repr

namespace Tier

/-- All tiers, the earliest first. -/
def all : List Tier := [security, interface, data, support, general, testLike]

/-- The position of a tier. -/
def rank : Tier → Nat
  | security => 0
  | interface => 1
  | data => 2
  | support => 3
  | general => 4
  | testLike => 5

/-- The words of which a path of the tier holds one. -/
def keywords : Tier → List String
  | security =>
    ["auth", "security", "secur", "payment", "billing", "checkout", "crypto", "password", "token",
      "session", "permission", "oauth", "jwt"]
  | interface =>
    ["api", "service", "controller", "route", "handler", "endpoint", "middleware", "resolver"]
  | data => ["model", "schema", "entity", "migration", "repository", "dto"]
  | support => ["util", "helper", "config", "setting", "constant", "lib/"]
  | general => []
  | testLike => []

/-- Whether a path holds a keyword of the tier. -/
def isNamedIn (tier : Tier) (path : List Char) : Bool :=
  (Pattern.anyWord tier.keywords).occursIn path

end Tier

/-- The words that make a path look like a test where they stand alone, also in the plural. -/
def testWords : List String :=
  ["test", "spec", "mock", "fixture", "stub", "fake"]

/-- The characters that separate the tokens of a path. -/
def isTokenSeparator (character : Char) : Bool :=
  character == '/' || character == '_' || character == '.' || character == '-'

/-- A path with a word for a test between separators. -/
def testLikePath : Pattern :=
  .sequence
    [partStart isTokenSeparator,
      .anyOf (testWords.map fun word => .sequence [.folded word, .optional (.folded "s")]),
      .alt (.one isTokenSeparator) .textEnd]

/-- The tier of the file at a path. -/
def tier (path : String) : Tier :=
  if testLikePath.occursIn path.toList then
    .testLike
  else
    (Tier.all.find? fun tier => tier.isNamedIn path.toList).getD .general

end DiffReview.Path
