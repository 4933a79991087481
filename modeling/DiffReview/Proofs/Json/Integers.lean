import DiffReview.Json.Bytes
import DiffReview.Proofs.Json.Reading
import DiffReview.Proofs.Text.Decimal

/-!
# Integers that were read

A text is read only if none of its integers has too many digits, and so every integer in a value
that was read can be written again.  The invariant is that all parts that the reader holds are free
of longer integers: no token brings one in, and a value is only ever made of such parts.
-/

namespace DiffReview.Json

open Text

/-- No integer in the value has too many digits. -/
inductive IsShort : Json → Prop
  | null : IsShort .null
  | bool (value : Bool) : IsShort (.bool value)
  | integer {value : Int} (short : value.natAbs < Nat.pow 10 maxDigits) : IsShort (.integer value)
  | float (value : Number.Binary64) : IsShort (.float value)
  | text (points : List CodePoint) : IsShort (.text points)
  | array {items : List Json} (short : ∀ item ∈ items, IsShort item) : IsShort (.array items)
  | object {members : List (List CodePoint × Json)}
      (short : ∀ member ∈ members, IsShort member.2) : IsShort (.object members)

theorem IsShort.of_member? {members : List (List CodePoint × Json)}
    (short : IsShort (.object members)) {name : String} {value : Json}
    (found : member? name members = some value) : value.IsShort := by
  cases short with
  | object all =>
      rw [member?, List.lookup_eq_some_iff] at found
      obtain ⟨before, after, split, -⟩ := found
      refine all (codePoints name.toList, value) (List.mem_reverse.mp ?_)
      rw [split]
      exact List.mem_append_right before List.mem_cons_self

/-! ## Tokens -/

/-- The token stands for no value with a long integer; digits are counted later. -/
def Token.IsShort : Token → Prop
  | .constant value => value.IsShort
  | _ => True

theorem isShort_of_scanNumber {negative : Bool} {points after : List CodePoint} {token : Token}
    (found : scanNumber negative points = some (token, after)) : token.IsShort := by
  rw [scanNumber] at found
  split at found
  · cases found
  · dsimp only at found
    split_ifs at found <;> obtain ⟨rfl, -⟩ := Prod.mk.inj (Option.some.inj found)
    · exact trivial
    · exact .float _
    · exact .float _

theorem isShort_of_scanConstant {points after : List CodePoint} {token : Token}
    (found : scanConstant points = some (token, after)) : token.IsShort := by
  obtain ⟨⟨word, value⟩, mem, dropped⟩ := List.exists_of_findSome?_eq_some found
  obtain ⟨rest, -, same⟩ := Option.map_eq_some_iff.mp dropped
  obtain ⟨rfl, -⟩ := Prod.mk.inj same
  have all : ∀ constant ∈ constants, constant.2.IsShort := by
    simp only [constants, List.forall_mem_cons]
    exact ⟨.null, .bool _, .bool _, .float _, .float _, .float _, nofun⟩
  exact all (word, value) mem

theorem isShort_of_scanToken {point : CodePoint} {rest after : List CodePoint} {token : Token}
    (found : scanToken point rest = some (token, after)) : token.IsShort := by
  have of_either : ∀ {negative : Bool} {points : List CodePoint},
      (scanNumber negative points).or (scanConstant (point :: rest)) = some (token, after) →
        token.IsShort := by
    intro negative points either
    rcases Option.or_eq_some_iff.mp either with number | ⟨-, constant⟩
    · exact isShort_of_scanNumber number
    · exact isShort_of_scanConstant constant
  rw [scanToken.eq_def] at found
  split at found
  · cases found
  · split at found
    case h_8 => exact of_either found
    case h_9 => exact of_either found
    case h_7 =>
      obtain ⟨⟨pieces, others⟩, -, same⟩ := Option.map_eq_some_iff.mp found
      obtain ⟨rfl, -⟩ := Prod.mk.inj same
      exact trivial
    all_goals
      obtain ⟨rfl, -⟩ := Prod.mk.inj (Option.some.inj found)
      exact trivial

theorem isShort_of_mem_tokensWithin {fuel : Nat} {points : List CodePoint} {token : Token}
    (mem : token ∈ tokensWithin fuel points) : token.IsShort := by
  fun_induction tokensWithin fuel points with
  | case1 => contradiction
  | case2 => contradiction
  | case3 fuel point rest spacing induction => exact induction mem
  | case4 fuel point rest solid scanned =>
      obtain rfl := List.mem_singleton.mp mem
      exact trivial
  | case5 fuel point rest solid first after scanned induction =>
      rcases List.mem_cons.mp mem with rfl | later
      · exact isShort_of_scanToken scanned
      · exact induction later

/-! ## Steps -/

/-- No integer in the parts of an open array or object has too many digits. -/
def Frame.IsShort : Frame → Prop
  | .array items => ∀ item ∈ items, item.IsShort
  | .object members _ => ∀ member ∈ members, member.2.IsShort

namespace ReaderState

/-- No integer in the parts that have been read has too many digits. -/
structure IsShort (state : ReaderState) : Prop where
  stack : ∀ frame ∈ state.stack, frame.IsShort
  expected : match state.expected with
    | .name members => ∀ member ∈ members, member.2.IsShort
    | .separator frame => frame.IsShort
    | .nothing value => value.IsShort
    | _ => True

theorem isShort_deliver {value : Json} (short : value.IsShort) {stack : List Frame}
    (stack_short : ∀ frame ∈ stack, frame.IsShort) : (deliver value stack).IsShort := by
  rcases stack with _ | ⟨frame, stack⟩
  · exact ⟨nofun, short⟩
  · obtain ⟨frame_short, outer_short⟩ := List.forall_mem_cons.mp stack_short
    cases frame with
    | array items =>
        refine ⟨outer_short, List.forall_mem_append.mpr ⟨frame_short, ?_⟩⟩
        exact List.forall_mem_singleton.mpr short
    | object members name =>
        refine ⟨outer_short, List.forall_mem_append.mpr ⟨frame_short, ?_⟩⟩
        exact List.forall_mem_singleton.mpr short

variable {nesting : Nat}

theorem isShort_of_readValue {stack : List Frame} {token : Token} {state : ReaderState}
    (token_short : token.IsShort) (stack_short : ∀ frame ∈ stack, frame.IsShort)
    (read : readValue nesting stack token = .ok state) : state.IsShort := by
  cases token with
  | constant value =>
      obtain rfl := Except.ok.inj read
      exact isShort_deliver token_short stack_short
  | text points =>
      obtain rfl := Except.ok.inj read
      exact isShort_deliver (.text points) stack_short
  | integer negative digits =>
      rw [readValue] at read
      cases digits_eq : readDigits digits with
      | error error => simp [digits_eq] at read
      | ok size =>
          rw [digits_eq] at read
          obtain rfl := Except.ok.inj read
          have size_lt : size < Nat.pow 10 maxDigits := lt_of_readDigits digits_eq
          refine isShort_deliver (.integer ?_) stack_short
          cases negative with
          | false => exact size_lt
          | true => simpa using size_lt
  | openArray | openObject =>
      rw [readValue, openContainer] at read
      split at read
      · cases read
      · obtain rfl := Except.ok.inj read
        exact ⟨stack_short, trivial⟩
  | _ => cases read

/-- A token leaves the parts short. -/
theorem Steps.isShort {state after : ReaderState} {token : Token}
    (steps : Steps nesting state token after) (token_short : token.IsShort)
    (short : state.IsShort) : after.IsShort := by
  obtain ⟨stack_short, expected_short⟩ := short
  cases steps with
  | value enters => exact isShort_of_readValue token_short stack_short (enters_iff.mpr enters)
  | firstItem _ enters =>
      have empty_short : Frame.IsShort (.array []) := List.forall_mem_nil _
      exact isShort_of_readValue token_short (List.forall_mem_cons.mpr ⟨empty_short, stack_short⟩)
        (enters_iff.mpr enters)
  | noItem => exact isShort_deliver (.array (List.forall_mem_nil _)) stack_short
  | noMember => exact isShort_deliver (.object (List.forall_mem_nil _)) stack_short
  | endItems => exact isShort_deliver (.array expected_short) stack_short
  | endMembers => exact isShort_deliver (.object expected_short) stack_short
  | firstName name =>
      have empty_short : Frame.IsShort (.object [] name) := List.forall_mem_nil _
      exact ⟨List.forall_mem_cons.mpr ⟨empty_short, stack_short⟩, trivial⟩
  | nextName => exact ⟨List.forall_mem_cons.mpr ⟨expected_short, stack_short⟩, trivial⟩
  | colon => exact ⟨stack_short, trivial⟩
  | nextItem => exact ⟨List.forall_mem_cons.mpr ⟨expected_short, stack_short⟩, trivial⟩
  | nextMember => exact ⟨stack_short, expected_short⟩

/-- A run over short tokens leaves the parts short. -/
theorem isShort_of_run {tokens : List Token} {state after : ReaderState}
    (tokens_short : ∀ token ∈ tokens, token.IsShort) (short : state.IsShort)
    (run : tokens.foldlM (ReaderState.read nesting) state = .ok after) : after.IsShort := by
  induction tokens generalizing state with
  | nil =>
      obtain rfl := Except.ok.inj run
      exact short
  | cons token tokens induction =>
      obtain ⟨token_short, others_short⟩ := List.forall_mem_cons.mp tokens_short
      obtain ⟨middle, step, others⟩ := bind_eq_ok_iff.mp run
      exact induction others_short ((steps_iff.mp step).isShort token_short short) others

end ReaderState

/-- No integer in a value that was read has too many digits. -/
theorem isShort_of_read {nesting : Nat} {points : List CodePoint} {value : Json}
    (read_eq : read nesting points = .ok value) : value.IsShort := by
  obtain ⟨state, run, finished⟩ := bind_eq_ok_iff.mp read_eq
  have tokens_short : ∀ token ∈ tokens points, token.IsShort :=
    fun _ mem => isShort_of_mem_tokensWithin mem
  have short := ReaderState.isShort_of_run tokens_short ⟨List.forall_mem_nil _, trivial⟩ run
  obtain ⟨expected, stack⟩ := state
  cases expected with
  | nothing other =>
      obtain rfl := Except.ok.inj finished
      exact short.expected
  | _ => cases finished

theorem isShort_of_readBytes {nesting : Nat} {bytes : Bytes} {value : Json}
    (read_eq : readBytes nesting bytes = .ok value) : value.IsShort := by
  simp only [readBytes] at read_eq
  split at read_eq
  · cases read_eq
  · split at read_eq
    · rename_i other_eq
      obtain rfl := Except.ok.inj read_eq
      exact isShort_of_read other_eq
    · cases read_eq

end DiffReview.Json
