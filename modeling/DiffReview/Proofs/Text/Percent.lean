import DiffReview.Proofs.Text.Utf8
import DiffReview.Text.Percent
import Mathlib.Data.List.Basic

/-!
# Escaped texts

A text with escapes for all characters but some safe ones is ASCII, and it stands for the text that
was escaped.
-/

namespace DiffReview.Text.Percent

/-! ## Escapes -/

/-- What escapes are made of. -/
def escapeCharacters : List Char :=
  ['%', '0', '1', '2', '3', '4', '5', '6', '7', '8', '9', 'A', 'B', 'C', 'D', 'E', 'F']

theorem escapeByte_eq (byte : UInt8) :
    escapeByte byte = ['%', (Nat.digitChar (byte.toNat / 16 % 16)).toUpper,
      (Nat.digitChar (byte.toNat % 16)).toUpper] :=
  rfl

theorem toUpper_digitChar_mem {digit : Nat} (small : digit < 16) :
    (Nat.digitChar digit).toUpper ∈ escapeCharacters := by
  revert digit
  decide

theorem mem_escapeCharacters_of_mem_escapeByte {byte : UInt8} :
    ∀ character ∈ escapeByte byte, character ∈ escapeCharacters := by
  rw [escapeByte_eq]
  intro character mem
  rcases List.mem_cons.mp mem with rfl | mem
  · exact List.mem_cons_self
  · rcases List.mem_pair.mp mem with rfl | rfl <;>
      exact toUpper_digitChar_mem (Nat.mod_lt _ (by decide))

theorem hexByte?_toUpper_digitChar {high low : Nat} (high_lt : high < 16) (low_lt : low < 16) :
    hexByte? (Nat.digitChar high).toUpper (Nat.digitChar low).toUpper =
      some (UInt8.ofNat (16 * high + low)) := by
  have value_eq : ∀ digit < 16, hexValue? (Nat.digitChar digit).toUpper = some digit := by decide
  simp [hexByte?, hexNumber?, value_eq high high_lt, value_eq low low_lt]

theorem decodeBytes_escapeByte (byte : UInt8) (rest : List Char) :
    decodeBytes (escapeByte byte ++ rest) = byte :: decodeBytes rest := by
  have byte_lt : byte.toNat < 256 := UInt8.toNat_lt_size byte
  have byte_eq : 16 * (byte.toNat / 16 % 16) + byte.toNat % 16 = byte.toNat := by omega
  rw [escapeByte_eq]
  simp only [List.cons_append, List.nil_append, decodeBytes]
  rw [hexByte?_toUpper_digitChar (by omega) (by omega), byte_eq, UInt8.ofNat_toNat]

theorem decodeBytes_flatMap_escapeByte (bytes : Bytes) (rest : List Char) :
    decodeBytes (bytes.flatMap escapeByte ++ rest) = bytes ++ decodeBytes rest := by
  induction bytes with
  | nil => rfl
  | cons byte bytes induction =>
      rw [List.flatMap_cons, List.append_assoc, decodeBytes_escapeByte, induction,
        List.cons_append]

theorem decodeBytes_cons_of_ne {character : Char} (no_escape : character ≠ '%')
    (rest : List Char) :
    decodeBytes (character :: rest) = UInt8.ofNat character.toNat :: decodeBytes rest := by
  rw [decodeBytes]
  exact fun _ _ _ escapes => absurd escapes no_escape

/-! ## Texts with escapes -/

theorem mem_encode {isSafe : Char → Bool} {text : List Char} :
    ∀ character ∈ encode isSafe text,
      isSafe character = true ∨ character ∈ escapeCharacters := by
  intro character mem
  obtain ⟨source, -, mem⟩ := List.mem_flatMap.mp mem
  rw [encodeCharacter] at mem
  split at mem
  · rename_i safe
    obtain rfl := List.mem_singleton.mp mem
    exact .inl safe
  · obtain ⟨byte, -, mem⟩ := List.mem_flatMap.mp mem
    exact .inr (mem_escapeCharacters_of_mem_escapeByte character mem)

section Plain

variable {isSafe : Char → Bool}
  (plain : ∀ character, isSafe character = true → isAscii character = true ∧ character ≠ '%')

include plain

theorem isAscii_of_mem_encode {text : List Char} :
    ∀ character ∈ encode isSafe text, isAscii character = true := by
  intro character mem
  rcases mem_encode character mem with safe | escapes
  · exact (plain character safe).1
  · have escapes_ascii : escapeCharacters.all isAscii = true := by decide
    exact List.all_eq_true.mp escapes_ascii character escapes

theorem decodeBytes_encodeCharacter (character : Char) (rest : List Char) :
    decodeBytes (encodeCharacter isSafe character ++ rest) =
      String.utf8EncodeChar character ++ decodeBytes rest := by
  rw [encodeCharacter]
  split
  · rename_i safe
    obtain ⟨ascii, no_escape⟩ := plain character safe
    rw [utf8EncodeChar_of_ascii (of_decide_eq_true ascii), List.singleton_append,
      decodeBytes_cons_of_ne no_escape, List.singleton_append]
  · rw [decodeBytes_flatMap_escapeByte, encodeUtf8_ofList, List.flatMap_singleton]

theorem decodeBytes_encode (text : List Char) :
    decodeBytes (encode isSafe text) = encodeUtf8 (String.ofList text) := by
  rw [encodeUtf8_ofList]
  induction text with
  | nil => rfl
  | cons character text induction =>
      rw [List.flatMap_cons, ← induction]
      exact decodeBytes_encodeCharacter plain character _

end Plain

theorem decodeFrom_of_ascii {run text : List Char}
    (ascii : ∀ character ∈ text, isAscii character = true) :
    decodeFrom run text = decodeUtf8Lossy (decodeBytes (run.reverse ++ text)) := by
  induction text generalizing run with
  | nil => rw [decodeFrom, List.append_nil]
  | cons character text induction =>
      obtain ⟨first_ascii, others_ascii⟩ := List.forall_mem_cons.mp ascii
      rw [decodeFrom, if_pos first_ascii, induction others_ascii, List.reverse_cons,
        List.append_assoc, List.singleton_append]

/-- A text with escapes stands for the text that was escaped. -/
theorem decode_encode {isSafe : Char → Bool}
    (plain : ∀ character, isSafe character = true → isAscii character = true ∧ character ≠ '%')
    (text : List Char) : decode (encode isSafe text) = text := by
  rw [decode, decodeFrom_of_ascii (isAscii_of_mem_encode plain), List.reverse_nil,
    List.nil_append, decodeBytes_encode plain, decodeUtf8Lossy_encodeUtf8]

end DiffReview.Text.Percent
