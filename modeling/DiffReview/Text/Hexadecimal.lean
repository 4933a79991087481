/-!
# Hexadecimal digits

Numbers are written with small digits, and read with digits of either case.  Reading the last digits
of a number gives its remainder (`hexNumber?_hexDigits`).
-/

namespace DiffReview.Text

/-- The value of a hexadecimal digit. -/
def hexValue? (character : Char) : Option Nat :=
  let code := character.toNat
  if '0'.toNat ≤ code ∧ code ≤ '9'.toNat then some (code - '0'.toNat)
  else if 'a'.toNat ≤ code ∧ code ≤ 'f'.toNat then some (code - 'a'.toNat + 10)
  else if 'A'.toNat ≤ code ∧ code ≤ 'F'.toNat then some (code - 'A'.toNat + 10)
  else none

/-- Whether a character is a hexadecimal digit. -/
def isHexDigit (character : Char) : Bool :=
  (hexValue? character).isSome

/-- The number that some hexadecimal digits denote. -/
def hexNumber? (digits : List Char) : Option Nat :=
  digits.foldlM (fun value digit => (hexValue? digit).map (16 * value + ·)) 0

/-- The last hexadecimal digits of a number, as many as wanted. -/
def hexDigits : Nat → Nat → List Char
  | 0, _ => []
  | count + 1, code => hexDigits count (code / 16) ++ [Nat.digitChar (code % 16)]

@[simp]
theorem length_hexDigits (count code : Nat) : (hexDigits count code).length = count := by
  induction count generalizing code with
  | zero => rfl
  | succ count induction => simp [hexDigits, induction]

theorem hexValue?_digitChar {value : Nat} (small : value < 16) :
    hexValue? (Nat.digitChar value) = some value := by
  have all : ∀ value : Fin 16, hexValue? (Nat.digitChar value) = some value.val := by decide
  exact all ⟨value, small⟩

theorem hexNumber?_hexDigits (count code : Nat) :
    hexNumber? (hexDigits count code) = some (code % Nat.pow 16 count) := by
  induction count generalizing code with
  | zero => simp [hexDigits, hexNumber?, Nat.mod_one]
  | succ count induction =>
    have last := hexValue?_digitChar (Nat.mod_lt code (show 0 < 16 by decide))
    have step :
        16 * (code / 16 % Nat.pow 16 count) + code % 16 = code % Nat.pow 16 (count + 1) := by
      rw [Nat.pow_eq, Nat.pow_eq, Nat.pow_succ, Nat.mul_comm (16 ^ count), Nat.mod_mul]
      omega
    simp only [hexNumber?] at induction
    rw [hexNumber?, hexDigits, List.foldlM_append, induction]
    simp only [Option.bind_eq_bind, Option.bind_some, List.foldlM_cons, List.foldlM_nil, last,
      Option.map_some, step]
    rfl

end DiffReview.Text
