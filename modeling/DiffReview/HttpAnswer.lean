import DiffReview.Json.Basic

/-!
# Answers to requests
-/

namespace DiffReview

/-- An answer to a request. -/
structure HttpAnswer where
  /-- The status. -/
  status : Nat
  /-- The body; null if nothing is told. -/
  body : Json

namespace HttpAnswer

/-- The answer to a request that succeeded. -/
def ok (body : Json) : HttpAnswer :=
  ⟨200, body⟩

/-- An answer that tells why a request did not succeed. -/
def detail (status : Nat) (reason : String) : HttpAnswer :=
  ⟨status, .ofMembers [("detail", reason)]⟩

end HttpAnswer

end DiffReview
