import DiffReview.Proofs.Text.CodePoint
import DiffReview.Text.Utf8
import Mathlib.Tactic.SplitIfs

/-!
# Texts as UTF-8

The bytes of a text are those of its characters one after another, and decoding them gives the text
back, whether surrogates are let through or not.
-/

namespace DiffReview.Text

/-! ## The bytes of a text -/

theorem toList_loop_byteArray (array : ByteArray) (index : Nat) (reversed : Bytes) :
    ByteArray.toList.loop array index reversed =
      reversed.reverse ++ array.data.toList.drop index := by
  fun_induction ByteArray.toList.loop array index reversed with
  | case1 index reversed inside induction =>
      have inside_data : index < array.data.toList.length := by simpa using inside
      rw [induction, List.drop_eq_getElem_cons inside_data]
      simp [ByteArray.get!, inside]
  | case2 index reversed outside =>
      rw [List.drop_eq_nil_of_le (by simpa using Nat.le_of_not_lt outside), List.append_nil]

theorem encodeUtf8_ofList (text : List Char) :
    encodeUtf8 (String.ofList text) = text.flatMap String.utf8EncodeChar := by
  rw [encodeUtf8, String.toUTF8_eq_toByteArray, String.toByteArray_ofList, ByteArray.toList,
    toList_loop_byteArray, List.utf8Encode, List.toList_data_toByteArray]
  rfl

theorem utf8EncodeChar_of_ascii {character : Char} (ascii : character.toNat < 0x80) :
    String.utf8EncodeChar character = [UInt8.ofNat character.toNat] :=
  if_pos (Nat.le_of_lt_succ ascii)

theorem toNat_ofNat_of_lt {code : Nat} (small : code < 0x100) : (UInt8.ofNat code).toNat = code :=
  UInt8.toNat_ofNat_of_lt' small

/-- Only the null character starts with a zero byte. -/
theorem exists_utf8EncodeChar_eq_cons (character : Char) :
    ∃ first others, String.utf8EncodeChar character = first :: others ∧
      (first = 0 → character = '\x00') := by
  have code_eq : character.val.toNat = character.toNat := rfl
  rw [String.utf8EncodeChar, code_eq]
  split_ifs with one two three
  · refine ⟨_, _, rfl, fun zero => ?_⟩
    have code_zero : (UInt8.ofNat character.toNat).toNat = 0 := congrArg UInt8.toNat zero
    rw [toNat_ofNat_of_lt (by omega)] at code_zero
    rw [← Char.ofNat_toNat character, code_zero]
  all_goals
    refine ⟨_, _, rfl, fun zero => ?_⟩
    have code_zero := congrArg UInt8.toNat zero
    rw [toNat_ofNat_of_lt (by omega)] at code_zero
    simp at code_zero

/-! ## Decoding -/

section Decoding

variable {surrogates : Bool} {rest : Bytes} {sequence : OpenSequence} {code low : Nat}

theorem decodeFrom_ascii (ascii : code < 0x80) :
    decodeFrom surrogates none (UInt8.ofNat code :: rest) =
      CodePoint.ofNat? code :: decodeFrom surrogates none rest := by
  rw [decodeFrom, decodeByte, decodeLead, toNat_ofNat_of_lt (by omega), leadByte, if_pos ascii]
  rfl

theorem decodeFrom_opening (small : code < 0x100)
    (opening : leadByte surrogates code = .opening sequence) :
    decodeFrom surrogates none (UInt8.ofNat code :: rest) =
      decodeFrom surrogates (some sequence) rest := by
  rw [decodeFrom, decodeByte, decodeLead, toNat_ofNat_of_lt small, opening]
  rfl

/-- What a byte that continues a sequence adds to it. -/
theorem decodeByte_continuing (small : low < 0x40) (least : sequence.least ≤ low + 0x80)
    (greatest : low + 0x80 ≤ sequence.greatest) :
    decodeByte surrogates (some sequence) (UInt8.ofNat (low + 0x80)) =
      if sequence.missing = 1 then ([CodePoint.ofNat? (sequence.code * 0x40 + low)], none)
      else ([], some
        { code := sequence.code * 0x40 + low, missing := sequence.missing - 1 }) := by
  have low_eq : (low + 0x80) % 0x40 = low := by omega
  rw [decodeByte, toNat_ofNat_of_lt (by omega), if_pos ⟨least, greatest⟩, low_eq]

theorem decodeFrom_continuing (small : low < 0x40) (least : sequence.least ≤ low + 0x80)
    (greatest : low + 0x80 ≤ sequence.greatest) (more : sequence.missing ≠ 1) :
    decodeFrom surrogates (some sequence) (UInt8.ofNat (low + 0x80) :: rest) =
      decodeFrom surrogates
        (some { code := sequence.code * 0x40 + low, missing := sequence.missing - 1 }) rest := by
  rw [decodeFrom, decodeByte_continuing small least greatest, if_neg more]
  rfl

theorem decodeFrom_completing (small : low < 0x40) (least : sequence.least ≤ low + 0x80)
    (greatest : low + 0x80 ≤ sequence.greatest) (last : sequence.missing = 1) :
    decodeFrom surrogates (some sequence) (UInt8.ofNat (low + 0x80) :: rest) =
      CodePoint.ofNat? (sequence.code * 0x40 + low) :: decodeFrom surrogates none rest := by
  rw [decodeFrom, decodeByte_continuing small least greatest, if_pos last]
  rfl

end Decoding

/-! ## Bytes that open a sequence -/

theorem leadByte_two (surrogates : Bool) :
    ∀ high < 0x20, 2 ≤ high →
      leadByte surrogates (high + 0xC0) = .opening { code := high, missing := 1 } := by
  revert surrogates
  decide

theorem leadByte_three (surrogates : Bool) :
    ∀ high < 0x10, leadByte surrogates (high + 0xE0) = .opening
      { code := high, missing := 2, least := if high = 0 then 0xA0 else 0x80
        greatest := if high = 0xD ∧ !surrogates then 0x9F else 0xBF } := by
  revert surrogates
  decide

theorem leadByte_four (surrogates : Bool) :
    ∀ high < 5, leadByte surrogates (high + 0xF0) = .opening
      { code := high, missing := 3, least := if high = 0 then 0x90 else 0x80
        greatest := if high = 4 then 0x8F else 0xBF } := by
  revert surrogates
  decide

/-! ## Texts -/

theorem ofNat?_toNat (character : Char) :
    CodePoint.ofNat? character.toNat = some (.scalar character) := by
  have valid := toNat_valid character
  rw [CodePoint.ofNat?, dif_neg (by omega), if_pos (by omega), Char.ofNat_toNat]

/-- The bytes of a character are decoded to the character. -/
theorem decodeFrom_utf8EncodeChar (surrogates : Bool) (character : Char) (rest : Bytes) :
    decodeFrom surrogates none (String.utf8EncodeChar character ++ rest) =
      some (.scalar character) :: decodeFrom surrogates none rest := by
  have valid := toNat_valid character
  have code_eq : character.val.toNat = character.toNat := rfl
  rw [← ofNat?_toNat]
  generalize character.toNat = code at valid code_eq
  rw [String.utf8EncodeChar, code_eq]
  split_ifs with one two three
  · exact decodeFrom_ascii (by omega)
  · have high_lt : code / 64 % 32 < 0x20 := by omega
    rw [List.cons_append, decodeFrom_opening (by omega) (leadByte_two _ _ high_lt (by omega)),
      List.cons_append, decodeFrom_completing (by omega) (by simp) (by simp; omega) rfl]
    congr 2
    dsimp only
    omega
  · have high_lt : code / 4096 % 16 < 0x10 := by omega
    rw [List.cons_append, decodeFrom_opening (by omega) (leadByte_three _ _ high_lt),
      List.cons_append, decodeFrom_continuing (by omega) (by dsimp only; split_ifs <;> omega)
        (by dsimp only; split_ifs <;> omega) (by simp),
      List.cons_append, decodeFrom_completing (by omega) (by simp) (by simp; omega) rfl]
    congr 2
    dsimp only
    omega
  · have high_lt : code / 262144 % 8 < 5 := by omega
    rw [List.cons_append, decodeFrom_opening (by omega) (leadByte_four _ _ high_lt),
      List.cons_append, decodeFrom_continuing (by omega) (by dsimp only; split_ifs <;> omega)
        (by dsimp only; split_ifs <;> omega) (by simp),
      List.cons_append, decodeFrom_continuing (by omega) (by simp) (by simp; omega) (by simp),
      List.cons_append, decodeFrom_completing (by omega) (by simp) (by simp; omega) rfl]
    congr 2
    dsimp only
    omega

theorem decodeFrom_encodeUtf8 (surrogates : Bool) (text : List Char) :
    decodeFrom surrogates none (encodeUtf8 (String.ofList text)) =
      text.map fun character => some (.scalar character) := by
  rw [encodeUtf8_ofList]
  induction text with
  | nil => rfl
  | cons character text induction =>
      rw [List.flatMap_cons, decodeFrom_utf8EncodeChar, induction, List.map_cons]

theorem mapM_decodeFrom_encodeUtf8 {α : Type} (surrogates : Bool)
    {read : Option CodePoint → Option α} {value : Char → α}
    (reads : ∀ character, read (some (.scalar character)) = some (value character))
    (text : List Char) :
    (decodeFrom surrogates none (encodeUtf8 (String.ofList text))).mapM read =
      some (text.map value) := by
  rw [decodeFrom_encodeUtf8]
  induction text with
  | nil => rfl
  | cons character text induction => simp [reads, induction]

theorem decodePoints?_encodeUtf8 (text : List Char) :
    decodePoints? (encodeUtf8 (String.ofList text)) = some (codePoints text) := by
  rw [decodePoints?, codePoints]
  refine mapM_decodeFrom_encodeUtf8 true ?_ text
  exact fun _ => rfl

theorem decodeUtf8?_encodeUtf8 (text : List Char) :
    decodeUtf8? (encodeUtf8 (String.ofList text)) = some text := by
  rw [decodeUtf8?, ← congrArg some (List.map_id text)]
  refine mapM_decodeFrom_encodeUtf8 false ?_ text
  exact fun _ => rfl

theorem decodeUtf8Lossy_encodeUtf8 (text : List Char) :
    decodeUtf8Lossy (encodeUtf8 (String.ofList text)) = text := by
  rw [decodeUtf8Lossy, decodeFrom_encodeUtf8, List.map_map]
  exact List.map_id text

end DiffReview.Text
