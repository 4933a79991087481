/-!
# Punycode

A text is written with ASCII characters only: first those that are ASCII, then, in the order of
their numbers, where the others stand.  Each of these is a step from the one before, written with
digits of base thirty-six whose weights follow the sizes of the steps so far.  Reading such a text
finds the code points again, whatever they are.
-/

namespace DiffReview.Text.Punycode

/-- The letter or figure for a digit below thirty-six. -/
def digit (value : Nat) : Char :=
  if value < 26 then Char.ofNat ('a'.toNat + value) else Char.ofNat ('0'.toNat + (value - 26))

/-- The value from which a digit is not the last one, given the weight of its place and the bias. -/
def threshold (weight bias : Nat) : Nat :=
  max 1 (min 26 (weight - bias))

theorem threshold_pos (weight bias : Nat) : 0 < threshold weight bias := by
  unfold threshold
  omega

theorem threshold_le (weight bias : Nat) : threshold weight bias ≤ 26 := by
  unfold threshold
  omega

/-- The digits of a step, the least significant first. -/
def digits (weight bias step : Nat) : List Char :=
  let bound := threshold weight bias
  if step < bound then
    [digit step]
  else
    digit (bound + (step - bound) % (36 - bound)) ::
      digits (weight + 36) bias ((step - bound) / (36 - bound))
termination_by step
decreasing_by
  have positive := threshold_pos weight bias
  have bounded := threshold_le weight bias
  calc (step - threshold weight bias) / (36 - threshold weight bias)
      ≤ step - threshold weight bias := Nat.div_le_self _ _
    _ < step := by omega

/-- The number of divisions by thirty-five, times thirty-six, after which a number is at most 455,
and what is left of it. -/
def shrink (weight number : Nat) : Nat × Nat :=
  if 455 < number then shrink (weight + 36) (number / 35) else (weight, number)
termination_by number
decreasing_by omega

/-- The bias after a step, given how many characters stand by then. -/
def bias (isFirst : Bool) (step count : Nat) : Nat :=
  let damped := if isFirst then step / 700 else step / 2
  let (weight, rest) := shrink 0 (damped + damped / count)
  weight + 36 * rest / (rest + 38)

/-- What has been written of a text. -/
structure Progress where
  /-- The digits so far. -/
  written : List Char := []
  /-- The size of the step that is being counted. -/
  step : Nat := 0
  /-- The bias for the digits of the next step. -/
  bias : Nat := 72
  /-- How many characters stand. -/
  count : Nat

namespace Progress

/-- The progress after a character has been passed while those of one code are being placed. -/
def pass (basic code : Nat) (progress : Progress) (character : Char) : Progress :=
  if character.toNat < code then
    { progress with step := progress.step + 1 }
  else if character.toNat = code then
    { written := progress.written ++ digits 36 progress.bias progress.step
      step := 0
      bias := Punycode.bias (progress.count == basic) progress.step (progress.count + 1)
      count := progress.count + 1 }
  else
    progress

end Progress

/-- The progress after the characters of some codes have been placed, given the least code that is
left. -/
def place (text : List Char) (basic : Nat) : List Nat → Nat → Progress → Progress
  | [], _, progress => progress
  | code :: codes, least, progress =>
    let passed := (text.foldl (Progress.pass basic code)
      { progress with step := progress.step + (code - least) * (progress.count + 1) })
    place text basic codes (code + 1) { passed with step := passed.step + 1 }

/-- The written form of a text. -/
def encode (text : List Char) : List Char :=
  let plain := text.filter fun character => character.toNat < 0x80
  let codes := ((text.map Char.toNat).filter (0x80 ≤ ·)).mergeSort.eraseDups
  let placed := place text plain.length codes 0x80 { count := plain.length }
  (if plain.isEmpty then [] else plain ++ ['-']) ++ placed.written

/-! ## Reading -/

/-- The value of a digit. -/
def digitValue? (character : Char) : Option Nat :=
  if character.isAlpha then some (character.toLower.toNat - 'a'.toNat)
  else if character.isDigit then some (character.toNat - '0'.toNat + 26)
  else none

/-- The step that the digits at the start of a text denote, and the text after them, given the
weight of the first digit, the bias, and what the digit stands for as often as it says. -/
def readStep? (weight bias unit : Nat) : List Char → Option (Nat × List Char)
  | [] => none
  | character :: rest => do
    let value ← digitValue? character
    let bound := threshold weight bias
    if value < bound then
      return (value * unit, rest)
    else
      let (more, after) ← readStep? (weight + 36) bias (unit * (36 - bound)) rest
      return (value * unit + more, after)

theorem length_of_readStep? {weight bias unit step : Nat} {text rest : List Char}
    (read : readStep? weight bias unit text = some (step, rest)) : rest.length < text.length := by
  induction text generalizing weight unit step with
  | nil => simp [readStep?] at read
  | cons character tail induction =>
    simp only [readStep?, Option.bind_eq_bind, Option.bind_eq_some_iff, Option.pure_def] at read
    obtain ⟨value, -, read⟩ := read
    split at read
    · simp only [Option.some.injEq, Prod.mk.injEq] at read
      simp [← read.2]
    · simp only [Option.bind_eq_some_iff, Option.some.injEq, Prod.mk.injEq] at read
      obtain ⟨⟨more, after⟩, found, -, rfl⟩ := read
      exact Nat.lt_succ_of_lt (induction found)

/-- Code points with those inserted that the steps of a text tell, given the position and the code
up to which they have been placed. -/
def insertFrom (bias position code : Nat) (points : List Nat) (text : List Char) :
    Option (List Nat) :=
  if text.isEmpty then
    some points
  else
    match _read : readStep? 36 bias 1 text with
    | none => none
    | some (step, rest) =>
      let count := points.length + 1
      let place := (position + step) % count
      let code := code + (position + step) / count
      if 0x10FFFF < code then
        none
      else
        insertFrom (Punycode.bias (points.all (· < 0x80)) step count) (place + 1) code
          (points.take place ++ code :: points.drop place) rest
termination_by text.length
decreasing_by exact length_of_readStep? _read

/-- The code points of the text with the given written form. -/
def decode? (written : List Char) : Option (List Nat) :=
  let steps := (written.reverse.takeWhile (· ≠ '-')).reverse
  let plain := written.take (written.length - (steps.length + 1))
  insertFrom 72 0 0x80 (plain.map Char.toNat) steps

end DiffReview.Text.Punycode
