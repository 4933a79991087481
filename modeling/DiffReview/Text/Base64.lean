import DiffReview.Text.Utf8

/-!
# Base64

Three bytes are written with four characters, each for six bits.  What is missing to the last three
bytes is written as equals signs.
-/

namespace DiffReview.Text.Base64

/-- The character for a number below sixty-four. -/
def character (number : Nat) : Char :=
  if number < 26 then Char.ofNat ('A'.toNat + number)
  else if number < 52 then Char.ofNat ('a'.toNat + (number - 26))
  else if number < 62 then Char.ofNat ('0'.toNat + (number - 52))
  else if number = 62 then '+'
  else '/'

/-- The characters for the groups of six bits of a number of twenty-four bits. -/
def characters (number : Nat) : List Char :=
  [number / 0x40000, number / 0x1000 % 0x40, number / 0x40 % 0x40, number % 0x40].map character

/-- The text for some bytes. -/
def encode : Bytes → List Char
  | [] => []
  | [first] => (characters (first.toNat * 0x10000)).take 2 ++ ['=', '=']
  | [first, second] => (characters (first.toNat * 0x10000 + second.toNat * 0x100)).take 3 ++ ['=']
  | first :: second :: third :: rest =>
    characters (first.toNat * 0x10000 + second.toNat * 0x100 + third.toNat) ++ encode rest

theorem length_encode (bytes : Bytes) : (encode bytes).length = (bytes.length + 2) / 3 * 4 := by
  fun_induction encode bytes with
  | case1 => rfl
  | case2 first => simp [characters]
  | case3 first second => simp [characters]
  | case4 first second third rest induction =>
    simp only [List.length_append, induction, List.length_cons, characters, List.length_map,
      List.length_nil]
    omega

end DiffReview.Text.Base64
