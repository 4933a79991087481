import DiffReview.Json.Reader
import DiffReview.Proofs.Except

/-!
# Reading values inside others

How deep a value encloses others bounds how many arrays and objects are open while it is read.  So a
value is read in the same way wherever there is room for it.
-/

namespace DiffReview

namespace Json

open Text

/-! ## Depth -/

mutual

/-- How many arrays and objects a value consists of, one inside the other. -/
def depth : Json → Nat
  | .array items => depthOfItems items + 1
  | .object members => depthOfMembers members + 1
  | _ => 0

/-- The greatest depth of some items. -/
def depthOfItems : List Json → Nat
  | [] => 0
  | item :: items => max (depth item) (depthOfItems items)

/-- The greatest depth of the values of some members. -/
def depthOfMembers : List (List CodePoint × Json) → Nat
  | [] => 0
  | (_, value) :: members => max (depth value) (depthOfMembers members)

end

theorem depthOfItems_concat (items : List Json) (item : Json) :
    depthOfItems (items ++ [item]) = max (depthOfItems items) item.depth := by
  induction items with
  | nil => simp [depthOfItems]
  | cons first items induction =>
      rw [List.cons_append, depthOfItems, depthOfItems, induction, Nat.max_assoc]

theorem depth_le_depthOfItems {items : List Json} {item : Json} (mem : item ∈ items) :
    item.depth ≤ depthOfItems items := by
  induction mem with
  | head items => exact Nat.le_max_left ..
  | tail first _ induction => exact Nat.le_trans induction (Nat.le_max_right ..)

theorem depth_le_depthOfMembers {members : List (List CodePoint × Json)}
    {member : List CodePoint × Json} (mem : member ∈ members) :
    member.2.depth ≤ depthOfMembers members := by
  induction mem with
  | head members => exact Nat.le_max_left ..
  | tail first _ induction => exact Nat.le_trans induction (Nat.le_max_right ..)

theorem depthOfItems_le {items : List Json} {bound : Nat}
    (all : ∀ item ∈ items, item.depth ≤ bound) : depthOfItems items ≤ bound := by
  induction items with
  | nil => exact Nat.zero_le _
  | cons first items induction =>
      exact Nat.max_le.mpr ⟨all first (List.mem_cons_self ..),
        induction fun item mem => all item (List.mem_cons_of_mem first mem)⟩

theorem depthOfMembers_le {members : List (List CodePoint × Json)} {bound : Nat}
    (all : ∀ member ∈ members, member.2.depth ≤ bound) : depthOfMembers members ≤ bound := by
  induction members with
  | nil => exact Nat.zero_le _
  | cons first members induction =>
      exact Nat.max_le.mpr ⟨all first (List.mem_cons_self ..),
        induction fun member mem => all member (List.mem_cons_of_mem first mem)⟩

theorem depthOfMembers_concat (members : List (List CodePoint × Json)) (name : List CodePoint)
    (value : Json) :
    depthOfMembers (members ++ [(name, value)]) = max (depthOfMembers members) value.depth := by
  induction members with
  | nil => simp [depthOfMembers]
  | cons first members induction =>
      rw [List.cons_append, depthOfMembers, depthOfMembers, induction, Nat.max_assoc]

/-- The greatest depth of the parts of an open array or object. -/
def Frame.depth : Frame → Nat
  | .array items => depthOfItems items
  | .object members _ => depthOfMembers members

/-- The depth that the whole value has at least, if something of the given depth is read inside the
open arrays and objects. -/
def openDepth : List Frame → Nat → Nat
  | [], inner => inner
  | frame :: stack, inner => openDepth stack (max frame.depth inner + 1)

theorem openDepth_mono (stack : List Frame) {less more : Nat} (le : less ≤ more) :
    openDepth stack less ≤ openDepth stack more := by
  induction stack generalizing less more with
  | nil => exact le
  | cons frame stack induction => exact induction (by omega)

theorem length_add_le_openDepth (stack : List Frame) (inner : Nat) :
    stack.length + inner ≤ openDepth stack inner := by
  induction stack generalizing inner with
  | nil => simp [openDepth]
  | cons frame stack induction =>
      have outer := induction (max frame.depth inner + 1)
      simp only [List.length_cons, openDepth]
      omega

namespace ReaderState

/-- The depth that the whole value has at least, once a state has been reached. -/
def reach (state : ReaderState) : Nat :=
  match state.expected with
  | .value | .colon => openDepth state.stack 0
  | .firstItem | .firstMember => openDepth state.stack 1
  | .name members => openDepth state.stack (depthOfMembers members + 1)
  | .separator frame => openDepth state.stack (frame.depth + 1)
  | .nothing value => value.depth

theorem reach_deliver (value : Json) (stack : List Frame) :
    (deliver value stack).reach = openDepth stack value.depth := by
  rcases stack with _ | ⟨items | ⟨members, name⟩, stack⟩
  · rfl
  · simp [deliver, reach, openDepth, Frame.depth, depthOfItems_concat]
  · simp [deliver, reach, openDepth, Frame.depth, depthOfMembers_concat]

/-! ## Steps -/

/-- What a token can lead to where a value may stand. -/
inductive Enters (nesting : Nat) (stack : List Frame) : Token → ReaderState → Prop
  | array (room : stack.length < nesting) : Enters nesting stack .openArray ⟨.firstItem, stack⟩
  | object (room : stack.length < nesting) : Enters nesting stack .openObject ⟨.firstMember, stack⟩
  | leaf {token : Token} {value : Json}
      (anywhere : ∀ stack, readValue nesting stack token = .ok (deliver value stack)) :
      Enters nesting stack token (deliver value stack)

/-- What a token can lead to. -/
inductive Steps (nesting : Nat) : ReaderState → Token → ReaderState → Prop
  | value {stack : List Frame} {token : Token} {state : ReaderState}
      (enters : Enters nesting stack token state) : Steps nesting ⟨.value, stack⟩ token state
  | firstItem {stack : List Frame} {token : Token} {state : ReaderState}
      (goes_on : token ≠ .closeArray) (enters : Enters nesting (.array [] :: stack) token state) :
      Steps nesting ⟨.firstItem, stack⟩ token state
  | noItem {stack : List Frame} :
      Steps nesting ⟨.firstItem, stack⟩ .closeArray (deliver (.array []) stack)
  | firstName {stack : List Frame} (name : List CodePoint) :
      Steps nesting ⟨.firstMember, stack⟩ (.text name) ⟨.colon, .object [] name :: stack⟩
  | noMember {stack : List Frame} :
      Steps nesting ⟨.firstMember, stack⟩ .closeObject (deliver (.object []) stack)
  | nextName {stack : List Frame} {members : List (List CodePoint × Json)}
      (name : List CodePoint) :
      Steps nesting ⟨.name members, stack⟩ (.text name) ⟨.colon, .object members name :: stack⟩
  | colon {stack : List Frame} : Steps nesting ⟨.colon, stack⟩ .colon ⟨.value, stack⟩
  | nextItem {stack : List Frame} {items : List Json} :
      Steps nesting ⟨.separator (.array items), stack⟩ .comma ⟨.value, .array items :: stack⟩
  | endItems {stack : List Frame} {items : List Json} :
      Steps nesting ⟨.separator (.array items), stack⟩ .closeArray (deliver (.array items) stack)
  | nextMember {stack : List Frame} {members : List (List CodePoint × Json)}
      {name : List CodePoint} :
      Steps nesting ⟨.separator (.object members name), stack⟩ .comma ⟨.name members, stack⟩
  | endMembers {stack : List Frame} {members : List (List CodePoint × Json)}
      {name : List CodePoint} :
      Steps nesting ⟨.separator (.object members name), stack⟩ .closeObject
        (deliver (.object members) stack)

variable {nesting : Nat}

theorem enters_iff {stack : List Frame} {token : Token} {state : ReaderState} :
    readValue nesting stack token = .ok state ↔ Enters nesting stack token state := by
  constructor
  · intro read
    cases token with
    | openArray =>
        rw [readValue, openContainer] at read
        split at read
        · cases read
        · rename_i room
          obtain rfl := Except.ok.inj read
          exact .array (Nat.not_le.mp room)
    | openObject =>
        rw [readValue, openContainer] at read
        split at read
        · cases read
        · rename_i room
          obtain rfl := Except.ok.inj read
          exact .object (Nat.not_le.mp room)
    | constant value =>
        obtain rfl := Except.ok.inj read
        exact .leaf fun _ => rfl
    | text points =>
        obtain rfl := Except.ok.inj read
        exact .leaf fun _ => rfl
    | integer negative digits =>
        rw [readValue] at read
        cases digits_eq : readDigits digits with
        | error error => simp [digits_eq] at read
        | ok size =>
            rw [digits_eq] at read
            obtain rfl := Except.ok.inj read
            exact .leaf fun _ => by rw [readValue, digits_eq]
    | _ => cases read
  · intro enters
    cases enters with
    | array room => exact if_neg (Nat.not_le.mpr room)
    | object room => exact if_neg (Nat.not_le.mpr room)
    | leaf anywhere => exact anywhere stack

/-- The steps of the reader are those that are listed, and no others. -/
theorem steps_iff {state after : ReaderState} {token : Token} :
    state.read nesting token = .ok after ↔ Steps nesting state token after := by
  constructor
  · intro read
    obtain ⟨expected, stack⟩ := state
    cases expected with
    | value => exact .value (enters_iff.mp read)
    | firstItem =>
        cases token with
        | closeArray =>
            obtain rfl := Except.ok.inj read
            exact .noItem
        | _ => exact .firstItem nofun (enters_iff.mp read)
    | firstMember =>
        cases token with
        | closeObject =>
            obtain rfl := Except.ok.inj read
            exact .noMember
        | text name =>
            obtain rfl := Except.ok.inj read
            exact .firstName name
        | _ => cases read
    | name members =>
        cases token with
        | text name =>
            obtain rfl := Except.ok.inj read
            exact .nextName name
        | _ => cases read
    | colon =>
        cases token with
        | colon =>
            obtain rfl := Except.ok.inj read
            exact .colon
        | _ => cases read
    | separator frame =>
        cases frame with
        | array items =>
            cases token with
            | comma =>
                obtain rfl := Except.ok.inj read
                exact .nextItem
            | closeArray =>
                obtain rfl := Except.ok.inj read
                exact .endItems
            | _ => cases read
        | object members name =>
            cases token with
            | comma =>
                obtain rfl := Except.ok.inj read
                exact .nextMember
            | closeObject =>
                obtain rfl := Except.ok.inj read
                exact .endMembers
            | _ => cases read
    | nothing value => cases token <;> cases read
  · intro steps
    cases steps with
    | value enters => exact enters_iff.mpr enters
    | @firstItem _ token _ goes_on enters =>
        cases token with
        | closeArray => exact absurd rfl goes_on
        | _ => exact enters_iff.mpr enters
    | _ => rfl

theorem Enters.reach_le {stack : List Frame} {token : Token} {state : ReaderState}
    (enters : Enters nesting stack token state) : openDepth stack 0 ≤ state.reach := by
  cases enters with
  | array => exact openDepth_mono stack (Nat.zero_le 1)
  | object => exact openDepth_mono stack (Nat.zero_le 1)
  | leaf =>
      rw [reach_deliver]
      exact openDepth_mono stack (Nat.zero_le _)

/-- The depth that is certain does not decrease. -/
theorem Steps.reach_le {state after : ReaderState} {token : Token}
    (steps : Steps nesting state token after) : state.reach ≤ after.reach := by
  cases steps with
  | value enters => exact enters.reach_le
  | firstItem _ enters => exact enters.reach_le
  | noItem | noMember | endItems | endMembers =>
      rw [reach_deliver]
      exact Nat.le_refl _
  | firstName | nextName | colon | nextItem | nextMember =>
      simp [reach, openDepth, Frame.depth, depthOfMembers]

/-! ## Room -/

/-- The state inside further arrays and objects that are open. -/
def under (outer : List Frame) (state : ReaderState) : ReaderState :=
  match state.expected with
  | .nothing value => deliver value outer
  | expected => ⟨expected, state.stack ++ outer⟩

theorem under_deliver (outer : List Frame) (value : Json) (stack : List Frame) :
    (deliver value stack).under outer = deliver value (stack ++ outer) := by
  rcases stack with _ | ⟨items | ⟨members, name⟩, stack⟩ <;> rfl

theorem Enters.under {outer stack : List Frame} {token : Token} {state : ReaderState}
    (enters : Enters nesting stack token state) (room : state.reach + outer.length ≤ nesting) :
    Enters nesting (stack ++ outer) token (state.under outer) := by
  have fits : openDepth stack 1 + outer.length ≤ nesting →
      (stack ++ outer).length < nesting := by
    intro fits
    have longer := length_add_le_openDepth stack 1
    rw [List.length_append]
    omega
  cases enters with
  | array => exact .array (fits room)
  | object => exact .object (fits room)
  | leaf anywhere =>
      rw [under_deliver]
      exact .leaf anywhere

/-- Where there is room, a step is the same inside further arrays and objects. -/
theorem Steps.under {outer : List Frame} {state after : ReaderState} {token : Token}
    (steps : Steps nesting state token after) (room : after.reach + outer.length ≤ nesting) :
    Steps nesting (state.under outer) token (after.under outer) := by
  cases steps with
  | value enters => exact .value (enters.under room)
  | firstItem goes_on enters => exact .firstItem goes_on (enters.under room)
  | noItem =>
      rw [under_deliver]
      exact .noItem
  | noMember =>
      rw [under_deliver]
      exact .noMember
  | endItems =>
      rw [under_deliver]
      exact .endItems
  | endMembers =>
      rw [under_deliver]
      exact .endMembers
  | firstName name => exact .firstName name
  | nextName name => exact .nextName name
  | colon => exact .colon
  | nextItem => exact .nextItem
  | nextMember => exact .nextMember

/-! ## Runs -/

theorem reach_le_of_run {tokens : List Token} {state after : ReaderState}
    (run : tokens.foldlM (ReaderState.read nesting) state = .ok after) :
    state.reach ≤ after.reach := by
  induction tokens generalizing state with
  | nil =>
      obtain rfl := Except.ok.inj run
      exact Nat.le_refl _
  | cons token tokens induction =>
      obtain ⟨middle, step, others⟩ := bind_eq_ok_iff.mp run
      exact Nat.le_trans (steps_iff.mp step).reach_le (induction others)

/-- Where there is room, a run is the same inside further arrays and objects. -/
theorem run_under {outer : List Frame} {tokens : List Token} {state after : ReaderState}
    (run : tokens.foldlM (ReaderState.read nesting) state = .ok after)
    (room : after.reach + outer.length ≤ nesting) :
    tokens.foldlM (ReaderState.read nesting) (state.under outer) = .ok (after.under outer) := by
  induction tokens generalizing state with
  | nil =>
      obtain rfl := Except.ok.inj run
      rfl
  | cons token tokens induction =>
      obtain ⟨middle, step, others⟩ := bind_eq_ok_iff.mp run
      have middle_room := Nat.le_trans (Nat.add_le_add_right (reach_le_of_run others) _) room
      exact bind_eq_ok_iff.mpr
        ⟨_, steps_iff.mpr ((steps_iff.mp step).under middle_room), induction others⟩

/-- Arrays are opened one inside the other until there is no more room. -/
theorem run_replicate_openArray {count : Nat} {stack : List Frame}
    (room : stack.length < nesting) (beyond : nesting ≤ stack.length + count) :
    (List.replicate count Token.openArray).foldlM (ReaderState.read nesting) ⟨.firstItem, stack⟩ =
      .error (.beyond (.nesting .array)) := by
  induction count generalizing stack with
  | zero => omega
  | succ count induction =>
      rw [List.replicate_succ, List.foldlM_cons]
      by_cases more_room : (Frame.array [] :: stack).length < nesting
      · have step : ReaderState.read nesting ⟨.firstItem, stack⟩ .openArray =
            .ok ⟨.firstItem, .array [] :: stack⟩ := enters_iff.mpr (.array more_room)
        rw [step]
        exact induction more_room (by rw [List.length_cons]; omega)
      · have full : ReaderState.read nesting ⟨.firstItem, stack⟩ .openArray =
            .error (.beyond (.nesting .array)) := if_pos (Nat.not_lt.mp more_room)
        rw [full]
        rfl

theorem not_enters_invalid {stack : List Frame} {state : ReaderState} :
    ¬Enters nesting stack .invalid state := by
  intro enters
  have read := enters_iff.mpr enters
  cases read

theorem not_mem_invalid_of_run {tokens : List Token} {state after : ReaderState}
    (run : tokens.foldlM (ReaderState.read nesting) state = .ok after) :
    Token.invalid ∉ tokens := by
  induction tokens generalizing state with
  | nil => simp
  | cons token tokens induction =>
      obtain ⟨middle, step, others⟩ := bind_eq_ok_iff.mp run
      rintro (_ | ⟨_, mem⟩)
      · cases steps_iff.mp step with
        | value enters => exact not_enters_invalid enters
        | firstItem _ enters => exact not_enters_invalid enters
      · exact induction others mem

theorem finish_eq_ok_iff {state : ReaderState} {value : Json} :
    state.finish = .ok value ↔ state.expected = .nothing value := by
  obtain ⟨expected, stack⟩ := state
  cases expected <;> simp [finish]

end ReaderState

open ReaderState (deliver)

variable {nesting : Nat}

/-! ## Values -/

/-- Some tokens are read as a value, wherever there is room for it. -/
def Spells (nesting : Nat) (tokens : List Token) (value : Json) : Prop :=
  ∀ stack, value.depth + stack.length ≤ nesting →
    tokens.foldlM (ReaderState.read nesting) ⟨.value, stack⟩ = .ok (deliver value stack)

/-- A text that is accepted where nothing is open is accepted wherever there is room. -/
theorem spells_of_read {points : List CodePoint} {value : Json}
    (accepted : read nesting points = .ok value) : Spells nesting (tokens points) value := by
  intro stack room
  obtain ⟨⟨expected, open_stack⟩, run, finished⟩ := bind_eq_ok_iff.mp accepted
  obtain rfl : expected = .nothing value := ReaderState.finish_eq_ok_iff.mp finished
  exact ReaderState.run_under run room

theorem not_mem_invalid_of_read {points : List CodePoint} {value : Json}
    (accepted : read nesting points = .ok value) : Token.invalid ∉ tokens points := by
  obtain ⟨state, run, -⟩ := bind_eq_ok_iff.mp accepted
  exact ReaderState.not_mem_invalid_of_run run

theorem read_of_spells {points : List CodePoint} {value : Json}
    (spells : Spells nesting (tokens points) value) (room : value.depth ≤ nesting) :
    read nesting points = .ok value :=
  bind_eq_ok_iff.mpr ⟨deliver value [], spells [] room, rfl⟩

theorem spells_text (points : List CodePoint) : Spells nesting [.text points] (.text points) :=
  fun _ _ => rfl

theorem spells_integer {digits : List Char} {number : Nat}
    (digits_eq : readDigits digits = .ok number) :
    Spells nesting [.integer false digits] (.integer number) := by
  intro stack _
  have step : ReaderState.readValue nesting stack (.integer false digits) =
      .ok (deliver (.integer number) stack) := by
    rw [ReaderState.readValue, digits_eq]
    rfl
  exact bind_eq_ok_iff.mpr ⟨_, step, rfl⟩

/-! ## Parts in a row -/

theorem foldlM_append_of_ok {state after : ReaderState} {tokens : List Token}
    (run : tokens.foldlM (ReaderState.read nesting) state = .ok after) (others : List Token) :
    (tokens ++ others).foldlM (ReaderState.read nesting) state =
      others.foldlM (ReaderState.read nesting) after := by
  rw [List.foldlM_append, run]
  rfl

/-- Parts that are separated by commas are read one after another. -/
theorem run_intercalate {α : Type} {tokensOf : α → List Token} {before after : List α → ReaderState}
    {first : α} {others : List α}
    (run_part : ∀ part ∈ first :: others, ∀ done,
      (tokensOf part).foldlM (ReaderState.read nesting) (before done) =
        .ok (after (done ++ [part])))
    (separated : ∀ done, (after done).read nesting .comma = .ok (before done)) (done : List α) :
    ([.comma].intercalate ((first :: others).map tokensOf)).foldlM (ReaderState.read nesting)
        (before done) =
      .ok (after (done ++ first :: others)) := by
  have run_first := run_part first (List.mem_cons_self ..) done
  induction others generalizing first done with
  | nil => simpa using run_first
  | cons second others induction =>
      have run_others := induction (fun part mem => run_part part (List.mem_cons_of_mem first mem))
        (done ++ [first]) (run_part second (by simp) _)
      rw [List.append_assoc, List.singleton_append] at run_others
      rw [List.map_cons, List.map_cons, List.intercalate_cons_cons, ← List.map_cons,
        List.append_assoc, foldlM_append_of_ok run_first]
      exact bind_eq_ok_iff.mpr ⟨_, separated _, run_others⟩

/-- The tokens of an array. -/
def arrayTokens (items : List (List Token)) : List Token :=
  .openArray :: ([.comma].intercalate items ++ [.closeArray])

/-- The tokens of a member. -/
def memberTokens (name : List CodePoint) (tokens : List Token) : List Token :=
  .text name :: .colon :: tokens

/-- The tokens of an object. -/
def objectTokens (members : List (List Token)) : List Token :=
  .openObject :: ([.comma].intercalate members ++ [.closeObject])

/-- Where an item may stand at the start of an array, it is read like any value. -/
theorem run_firstItem {stack : List Frame} {tokens : List Token} (some_token : tokens ≠ [])
    {after : ReaderState}
    (run : tokens.foldlM (ReaderState.read nesting) ⟨.value, .array [] :: stack⟩ = .ok after) :
    tokens.foldlM (ReaderState.read nesting) ⟨.firstItem, stack⟩ = .ok after := by
  cases tokens with
  | nil => contradiction
  | cons token tokens =>
      obtain ⟨middle, step, others⟩ := bind_eq_ok_iff.mp run
      have goes_on : token ≠ .closeArray := by
        rintro rfl
        cases step
      exact bind_eq_ok_iff.mpr ⟨middle,
        ReaderState.steps_iff.mpr (.firstItem goes_on (ReaderState.enters_iff.mp step)), others⟩

/-- Where a member may stand at the start of an object, it is read like any member. -/
theorem run_firstMember {stack : List Frame} {tokens : List Token} (some_token : tokens ≠ [])
    {after : ReaderState}
    (run : tokens.foldlM (ReaderState.read nesting) ⟨.name [], stack⟩ = .ok after) :
    tokens.foldlM (ReaderState.read nesting) ⟨.firstMember, stack⟩ = .ok after := by
  cases tokens with
  | nil => contradiction
  | cons token tokens =>
      obtain ⟨middle, step, others⟩ := bind_eq_ok_iff.mp run
      cases ReaderState.steps_iff.mp step with
      | nextName name => exact others

section Parts

variable {α : Type} {nameOf : α → List CodePoint} {tokensOf : α → List Token}
  {valueOf : α → Json} {parts : List α}
  (spell : ∀ part ∈ parts, Spells nesting (tokensOf part) (valueOf part))

include spell

theorem spells_array :
    Spells nesting (arrayTokens (parts.map tokensOf)) (.array (parts.map valueOf)) := by
  intro stack room
  rw [depth] at room
  have opens : stack.length < nesting := by omega
  refine bind_eq_ok_iff.mpr ⟨_, ReaderState.enters_iff.mpr (.array opens), ?_⟩
  cases parts with
  | nil => rfl
  | cons first others =>
      let before : List α → ReaderState := fun done =>
        ⟨.value, .array (done.map valueOf) :: stack⟩
      let after : List α → ReaderState := fun done =>
        ⟨.separator (.array (done.map valueOf)), stack⟩
      have run_part : ∀ part ∈ first :: others, ∀ done,
          (tokensOf part).foldlM (ReaderState.read nesting) (before done) =
            .ok (after (done ++ [part])) := by
        intro part mem done
        have shallower := depth_le_depthOfItems (List.mem_map_of_mem mem : valueOf part ∈ _)
        have run := spell part mem (.array (done.map valueOf) :: stack) (by
          rw [List.length_cons]
          omega)
        simpa [before, after, deliver] using run
      have run := run_intercalate run_part (fun _ => rfl) []
      have some_token : [Token.comma].intercalate ((first :: others).map tokensOf) ≠ [] := by
        intro no_token
        rw [no_token] at run
        cases run
      exact (foldlM_append_of_ok (run_firstItem some_token run) _).trans rfl

theorem spells_object :
    Spells nesting (objectTokens (parts.map fun part => memberTokens (nameOf part) (tokensOf part)))
      (.object (parts.map fun part => (nameOf part, valueOf part))) := by
  intro stack room
  rw [depth] at room
  have opens : stack.length < nesting := by omega
  refine bind_eq_ok_iff.mpr ⟨_, ReaderState.enters_iff.mpr (.object opens), ?_⟩
  cases parts with
  | nil => rfl
  | cons first others =>
      let before : List α → ReaderState := fun done =>
        ⟨.name (done.map fun part => (nameOf part, valueOf part)), stack⟩
      let after : List α → ReaderState := fun done =>
        ⟨.separator (.object (done.map fun part => (nameOf part, valueOf part)) []), stack⟩
      have run_part : ∀ part ∈ first :: others, ∀ done,
          (memberTokens (nameOf part) (tokensOf part)).foldlM (ReaderState.read nesting)
              (before done) =
            .ok (after (done ++ [part])) := by
        intro part mem done
        have shallower := depth_le_depthOfMembers (List.mem_map.mpr ⟨part, mem, rfl⟩ :
          (nameOf part, valueOf part) ∈ (first :: others).map fun part =>
            (nameOf part, valueOf part))
        have run := spell part mem
          (.object (done.map fun part => (nameOf part, valueOf part)) (nameOf part) :: stack) (by
            rw [List.length_cons]
            dsimp only at shallower
            omega)
        -- The name and the colon lead to where the value may stand.
        refine bind_eq_ok_iff.mpr ⟨_, rfl, bind_eq_ok_iff.mpr ⟨_, rfl, ?_⟩⟩
        simpa [after, deliver] using run
      have run := run_intercalate run_part (fun _ => rfl) []
      have some_token : [Token.comma].intercalate ((first :: others).map fun part =>
          memberTokens (nameOf part) (tokensOf part)) ≠ [] := by
        intro no_token
        rw [no_token] at run
        cases run
      exact (foldlM_append_of_ok (run_firstMember some_token run) _).trans rfl

end Parts

end Json

end DiffReview
