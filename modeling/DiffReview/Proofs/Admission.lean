import DiffReview.Json.Writer
import DiffReview.Proofs.Field.Integer
import DiffReview.Proofs.Handling
import DiffReview.Proofs.Json.Reading
import DiffReview.Proofs.Json.Token
import DiffReview.Webhook

/-!
# Which deliveries are let in

A delivery leads to a review only if it is signed with the secret and tells of a change.  All other
deliveries are answered for the first check that they fail, and nothing is done for them.  Neither
the answer nor anything else tells what a delivery without a valid signature holds.
-/

namespace DiffReview

/-! ## Numbers of pull requests -/

namespace Checked

variable {α β : Type}

/-- A function is applied only where neither it nor the value has a fault. -/
theorem seq_eq_accepted_iff {function : Checked (α → β)} {value : Checked α} {result : β} :
    function <*> value = .accepted result ↔
      ∃ apply given, function = .accepted apply ∧ value = .accepted given ∧
        apply given = result := by
  change Checked.apply function (fun _ => value) = .accepted result ↔ _
  cases function <;> cases value <;> simp [Checked.apply]

theorem ofField_eq_accepted_iff {place : String} {checked : Except FieldFault α} {value : α} :
    ofField place checked = .accepted value ↔ checked = .ok value := by
  cases checked <;> simp [ofField]

end Checked

namespace PullRequestEvent

theorem number_of_read {members : Record.Members} {event : PullRequestEvent}
    (read_eq : read members = .accepted event) :
    Record.nullable Field.integer "number" members = .accepted event.number := by
  obtain ⟨fifth, repository, others, -, rfl⟩ := Checked.seq_eq_accepted_iff.mp read_eq
  obtain ⟨fourth, pullRequest, others, -, fifth_eq⟩ := Checked.seq_eq_accepted_iff.mp others
  obtain ⟨third, before, others, -, fourth_eq⟩ := Checked.seq_eq_accepted_iff.mp others
  obtain ⟨second, number, made, number_eq, third_eq⟩ := Checked.seq_eq_accepted_iff.mp others
  obtain ⟨first, action, made, -, second_eq⟩ := Checked.seq_eq_accepted_iff.mp made
  obtain rfl : mk = first := Checked.accepted.inj made
  subst second_eq third_eq fourth_eq fifth_eq
  exact number_eq

/-- The number that an event tells of stands in a member of the value that describes it. -/
theorem exists_member_of_ofJson {value : Json} {event : PullRequestEvent} {number : Int}
    (accepted : ofJson value = .accepted event) (number_eq : event.number = some number) :
    ∃ members given, value = .object members ∧ Json.member? "number" members = some given ∧
      Field.integer given = .ok number := by
  cases value with
  | object members =>
      have nullable_eq := number_of_read accepted
      rw [number_eq, Record.nullable, Record.withDefault, Checked.ofField_eq_accepted_iff]
        at nullable_eq
      cases found : Json.member? "number" members with
      | none =>
          rw [found] at nullable_eq
          cases nullable_eq
      | some given =>
          rw [found, Option.elim_some] at nullable_eq
          refine ⟨members, given, rfl, found, ?_⟩
          revert nullable_eq
          fun_cases Record.orNull Field.integer given with
          | case1 => exact nofun
          | case2 =>
              intro taken
              cases read_eq : Field.integer given with
              | error fault =>
                  rw [read_eq] at taken
                  cases taken
              | ok other =>
                  rw [read_eq] at taken
                  obtain rfl := Option.some.inj (Except.ok.inj taken)
                  rfl
  | _ => cases accepted

theorem number_of_change? {event : PullRequestEvent} {change : Change}
    (change_eq : event.change? = some change) : event.number = some change.number := by
  simp only [change?, Option.bind_eq_bind, Option.bind_eq_some_iff, Option.pure_def,
    Option.some.injEq] at change_eq
  obtain ⟨number, number_eq, _, -, _, -, _, -, rfl⟩ := change_eq
  exact number_eq

end PullRequestEvent

namespace Webhook

/-! ## What is checked -/

/-- A secret is configured, and it is not empty. -/
def IsSecret (secret : Option String) (key : String) : Prop :=
  secret = some key ∧ key ≠ ""

namespace Delivery

/-- The signature is that of the bytes. -/
def IsSigned (key : String) (delivery : Delivery) : Prop :=
  delivery.signature = some (Signature.sign key delivery.body)

/-- The bytes denote a value that describes an event. -/
def Describes (nesting : Nat) (delivery : Delivery) (event : PullRequestEvent) : Prop :=
  ∃ value, delivery.decode nesting = .ok value ∧ PullRequestEvent.ofJson value = .accepted event

/-- The values in the bytes enclose each other too often. -/
def IsNestedTooOften (nesting : Nat) (delivery : Delivery) (container : JsonContainer) : Prop :=
  delivery.decode nesting = .error (.invalid (.beyond (.nesting container)))

end Delivery

/-- An event after which a change is reviewed. -/
def CallsForReview (event : PullRequestEvent) : Prop :=
  event.action = "opened" ∨ event.action = "synchronize"

/-- What is done for a delivery, and how it is answered. -/
inductive Receives (gate : Gate) (service : Service) (delivery : Delivery) :
    List Effect → Except Failure HttpAnswer → Prop
  | withoutSecret (absent : ∀ key, ¬IsSecret gate.secret key) :
      Receives gate service delivery [] (.ok (.detail 500 "Webhook secret is not configured"))
  | unsigned {key : String} (is_secret : IsSecret gate.secret key)
      (not_signed : ¬delivery.IsSigned key) :
      Receives gate service delivery []
        (.ok (.detail 401 "Invalid or missing webhook signature"))
  | nestedTooOften {key : String} {container : JsonContainer} (is_secret : IsSecret gate.secret key)
      (signed : delivery.IsSigned key)
      (too_often : delivery.IsNestedTooOften gate.nesting container) :
      Receives gate service delivery [] (.error (.nesting container))
  | unreadable {key : String} (is_secret : IsSecret gate.secret key) (signed : delivery.IsSigned key)
      (not_too_often : ∀ container, ¬delivery.IsNestedTooOften gate.nesting container)
      (denotes_none : ∀ value, delivery.decode gate.nesting ≠ .ok value) :
      Receives gate service delivery []
        (.ok (.detail 400 s!"Invalid webhook payload: {gate.explainBytes delivery}"))
  | undescribed {key : String} {value : Json} (is_secret : IsSecret gate.secret key)
      (signed : delivery.IsSigned key) (denotes : delivery.decode gate.nesting = .ok value)
      (describes_none : ∀ event, ¬delivery.Describes gate.nesting event) :
      Receives gate service delivery []
        (.ok (.detail 400 s!"Invalid webhook payload: {gate.explainValue value}"))
  | skipped {key : String} {event : PullRequestEvent} (is_secret : IsSecret gate.secret key)
      (signed : delivery.IsSigned key) (describes : delivery.Describes gate.nesting event)
      (not_called_for : ¬CallsForReview event) :
      Receives gate service delivery [.log (.eventReceived event.action)]
        (.ok (.ok (.ofMembers [("received", true), ("skipped", true)])))
  | changeMissing {key : String} {event : PullRequestEvent} (is_secret : IsSecret gate.secret key)
      (signed : delivery.IsSigned key) (describes : delivery.Describes gate.nesting event)
      (called_for : CallsForReview event) (missing : event.change? = none) :
      Receives gate service delivery [.log (.eventReceived event.action), .log .changeMissing]
        (.ok (.ok (.ofMembers
          [("received", true), ("skipped", true), ("reason", "missing PR data")])))
  | reviewed {key : String} {event : PullRequestEvent} {change : Change}
      (is_secret : IsSecret gate.secret key) (signed : delivery.IsSigned key)
      (describes : delivery.Describes gate.nesting event) (called_for : CallsForReview event)
      (change_eq : event.change? = some change) :
      Receives gate service delivery
        (.log (.eventReceived event.action) :: (review service change).effects)
        (.ok (.ok (.ofMembers [("received", true)])))

theorem present?_eq_some_iff {secret : Option String} {key : String} :
    Text.present? secret = some key ↔ IsSecret secret key := by
  simp [Text.present?, IsSecret, Option.filter_eq_some_iff]

theorem isValid_iff {key : String} {delivery : Delivery} :
    Signature.isValid key delivery.body delivery.signature = true ↔ delivery.IsSigned key := by
  simp [Signature.isValid, Delivery.IsSigned, Option.any_eq_true]

theorem isReviewed_iff {event : PullRequestEvent} :
    event.isReviewed = true ↔ CallsForReview event := by
  simp [PullRequestEvent.isReviewed, PullRequestEvent.reviewedActions,
    PullRequestEvent.synchronizeAction, CallsForReview]

/-! ## Which event is told of -/

section Told

variable {gate : Gate} {delivery : Delivery}

theorem event_of_describes {event : PullRequestEvent}
    (describes : delivery.Describes gate.nesting event) : gate.event delivery = .ok event := by
  obtain ⟨value, decoded, accepted⟩ := describes
  simp [Gate.event, decoded, accepted, Checked.value?]

theorem event_of_nestedTooOften {container : JsonContainer}
    (too_often : delivery.IsNestedTooOften gate.nesting container) :
    gate.event delivery = .error (.nestedTooOften container) := by
  rw [Gate.event, too_often]

/-- A delivery describes an event, or is nested too often, or denotes a value that describes none,
or denotes no value at all. -/
theorem event_cases (gate : Gate) (delivery : Delivery) :
    (∃ event, delivery.Describes gate.nesting event) ∨
      (∃ container, delivery.IsNestedTooOften gate.nesting container) ∨
      (∃ value, delivery.decode gate.nesting = .ok value ∧
        (∀ event, ¬delivery.Describes gate.nesting event) ∧
          gate.event delivery = .error (.payloadInvalid (gate.explainValue value))) ∨
      (∀ container, ¬delivery.IsNestedTooOften gate.nesting container) ∧
        (∀ value, delivery.decode gate.nesting ≠ .ok value) ∧
          gate.event delivery = .error (.payloadInvalid (gate.explainBytes delivery)) := by
  cases decoded : delivery.decode gate.nesting with
  | ok value =>
      cases checked : PullRequestEvent.ofJson value with
      | accepted event => exact .inl ⟨event, value, decoded, checked⟩
      | refused faults =>
          refine .inr (.inr (.inl ⟨value, rfl, ?_, ?_⟩))
          · rintro event ⟨other, other_decoded, accepted⟩
            obtain rfl := Except.ok.inj (decoded.symm.trans other_decoded)
            cases checked.symm.trans accepted
          · simp [Gate.event, decoded, checked, Checked.value?]
  | error error =>
      by_cases too_often : ∃ container, delivery.IsNestedTooOften gate.nesting container
      · exact .inr (.inl too_often)
      · have not_too_often : ∀ container, ¬delivery.IsNestedTooOften gate.nesting container :=
          fun container nested => too_often ⟨container, nested⟩
        refine .inr (.inr (.inr ⟨not_too_often, nofun, ?_⟩))
        rw [Gate.event, decoded]
        split
        · rename_i error_eq
          cases error_eq
        · rename_i container error_eq
          exact absurd (decoded.trans error_eq) (not_too_often container)
        · rfl

theorem describes_of_event {event : PullRequestEvent} (event_eq : gate.event delivery = .ok event) :
    delivery.Describes gate.nesting event := by
  rcases event_cases gate delivery with
    ⟨other, describes⟩ | ⟨container, too_often⟩ | ⟨value, -, -, refused⟩ | ⟨-, -, refused⟩
  · obtain rfl := Except.ok.inj ((event_of_describes describes).symm.trans event_eq)
    exact describes
  · cases (event_of_nestedTooOften too_often).symm.trans event_eq
  · cases refused.symm.trans event_eq
  · cases refused.symm.trans event_eq

end Told

/-! ## Deliveries that are nested too often -/

theorem decodePoints?_replicate (count : Nat) :
    Text.decodePoints? (List.replicate count 0x5B) =
      some (List.replicate count (.scalar '[')) := by
  induction count with
  | zero => rfl
  | succ count induction =>
      have first : Text.decodeByte true none 0x5B = ([some (.scalar '[')], none) := by decide
      rw [Text.decodePoints?] at induction ⊢
      rw [List.replicate_succ, List.replicate_succ, Text.decodeFrom, first]
      simp [induction]

theorem read_replicate {nesting count : Nat} (some_room : 0 < nesting) (beyond : nesting < count) :
    Json.read nesting (List.replicate count (.scalar '[')) =
      .error (.beyond (.nesting .array)) := by
  obtain ⟨others, rfl⟩ := Nat.exists_eq_add_one_of_ne_zero (Nat.ne_zero_of_lt beyond)
  have opened : Json.ReaderState.read nesting ⟨.value, []⟩ .openArray = .ok ⟨.firstItem, []⟩ :=
    if_neg (Nat.not_le.mpr some_room)
  have run := Json.ReaderState.run_replicate_openArray some_room
    (by rw [List.length_nil]; omega : nesting ≤ List.length [] + others)
  rw [Json.read, Json.tokens_replicate_openArray, List.replicate_succ, List.foldlM_cons, opened]
  exact (congrArg (· >>= Json.ReaderState.finish) run).trans rfl

theorem readBytes_replicate {nesting count : Nat} (room : 3 ≤ nesting) (beyond : nesting < count) :
    Json.readBytes nesting (List.replicate count 0x5B) =
      .error (.invalid (.beyond (.nesting .array))) := by
  obtain ⟨others, rfl⟩ : ∃ others, count = others + 4 := ⟨count - 4, by omega⟩
  have encoding : Json.detectEncoding (List.replicate (others + 4) 0x5B) =
      (.utf8, List.replicate (others + 4) 0x5B) := rfl
  have some_room : 0 < nesting := by omega
  simp only [Json.readBytes, encoding, Json.Encoding.decode?, decodePoints?_replicate,
    read_replicate some_room beyond]

/-- Many opening brackets are nested too often. -/
theorem nestedTooOften_of_brackets {nesting : Nat} {delivery : Delivery} {count : Nat}
    (room : 3 ≤ nesting) (beyond : nesting < count)
    (brackets : delivery.body = List.replicate count 0x5B) (no_form : delivery.isForm = false) :
    delivery.IsNestedTooOften nesting .array := by
  rw [Delivery.IsNestedTooOften, Delivery.decode, no_form, brackets]
  exact readBytes_replicate room beyond

/-! ## What is done -/

section Received

variable {gate : Gate} {delivery : Delivery}

theorem receive_of_refused {verdict : Verdict}
    (refused : gate.admittedEvent delivery = .error verdict) (no_change : verdict.change? = none)
    (service : Service) : receive gate service delivery = ⟨[], verdict.answer⟩ := by
  simp [receive, Gate.deliveryEvents, Gate.verdict, refused, no_change]

theorem receive_of_admitted {event : PullRequestEvent}
    (admitted : gate.admittedEvent delivery = .ok event) (service : Service) :
    receive gate service delivery =
      ⟨.log (.eventReceived event.action) ::
          ((if judge event = .changeMissing then [.log .changeMissing] else []) ++
            (judge event).change?.elim [] fun change => (review service change).effects),
        (judge event).answer⟩ := by
  simp only [receive, Gate.deliveryEvents, Gate.verdict, admitted]
  split <;> rfl

theorem admittedEvent_of_signed {key : String} (is_secret : IsSecret gate.secret key)
    (signed : delivery.IsSigned key) : gate.admittedEvent delivery = gate.event delivery := by
  rw [Gate.admittedEvent, present?_eq_some_iff.mpr is_secret]
  exact if_pos (isValid_iff.mpr signed)

theorem admittedEvent_of_not_signed {key : String} (is_secret : IsSecret gate.secret key)
    (not_signed : ¬delivery.IsSigned key) :
    gate.admittedEvent delivery = .error .signatureInvalid := by
  rw [Gate.admittedEvent, present?_eq_some_iff.mpr is_secret]
  exact if_neg (fun valid => not_signed (isValid_iff.mp valid))

theorem admittedEvent_of_no_secret (absent : ∀ key, ¬IsSecret gate.secret key) :
    gate.admittedEvent delivery = .error .secretMissing := by
  cases present : Text.present? gate.secret with
  | none => rw [Gate.admittedEvent, present]
  | some key => exact absurd (present?_eq_some_iff.mp present) (absent key)

end Received

/-- The review of a change that can be named ends with a line in the log. -/
theorem review_of_isNamed {change : Change} (named : change.IsNamed) (service : Service) :
    ∃ event, review service change =
      ⟨(service.handle change).effects ++ [.log event], .ok ()⟩ := by
  obtain ⟨event, event_eq⟩ :
      ∃ event, reviewEvent change (service.handle change).outcome = .ok event := by
    rw [reviewEvent, Change.slug_of_isNamed named]
    exact ⟨_, rfl⟩
  refine ⟨event, ?_⟩
  rw [review, event_eq]
  rfl

theorem review_of_not_isNamed {change : Change} (unwritable : ¬change.IsNamed)
    (service : Service) : review service change =
      ⟨(service.handle change).effects, .error (.digits .writing)⟩ := by
  have unwritable : reviewEvent change (service.handle change).outcome = .error .writing := by
    rw [reviewEvent, Change.slug_of_not_isNamed unwritable]
    rfl
  rw [review, unwritable]
  change Action.mk ((service.handle change).effects ++ []) _ = _
  rw [List.append_nil]
  rfl

theorem judge_of_not_called_for {event : PullRequestEvent}
    (not_called_for : ¬CallsForReview event) :
    judge event = .skipped :=
  if_neg fun reviewed => not_called_for (isReviewed_iff.mp reviewed)

theorem judge_of_change? {event : PullRequestEvent} (called_for : CallsForReview event) :
    judge event = event.change?.elim .changeMissing .accepted := by
  rw [judge, if_pos (isReviewed_iff.mpr called_for)]
  cases event.change? <;> rfl

/-- Each delivery is received in one of the ways that are listed. -/
theorem receives (gate : Gate) (service : Service) (delivery : Delivery) :
    Receives gate service delivery (receive gate service delivery).effects
      (receive gate service delivery).outcome := by
  by_cases configured : ∃ key, IsSecret gate.secret key
  case neg =>
    have absent : ∀ key, ¬IsSecret gate.secret key :=
      fun key is_secret => configured ⟨key, is_secret⟩
    rw [receive_of_refused (admittedEvent_of_no_secret absent) rfl]
    exact .withoutSecret absent
  obtain ⟨key, is_secret⟩ := configured
  by_cases signed : delivery.IsSigned key
  case neg =>
    rw [receive_of_refused (admittedEvent_of_not_signed is_secret signed) rfl]
    exact .unsigned is_secret signed
  have admitted := admittedEvent_of_signed is_secret signed
  rcases event_cases gate delivery with ⟨event, describes⟩ | ⟨container, too_often⟩ |
    ⟨value, denotes, describes_none, event_eq⟩ | ⟨not_too_often, denotes_none, event_eq⟩
  · rw [event_of_describes describes] at admitted
    rw [receive_of_admitted admitted]
    by_cases called_for : CallsForReview event
    · rw [judge_of_change? called_for]
      cases change_eq : event.change? with
      | none => exact .changeMissing is_secret signed describes called_for change_eq
      | some change => exact .reviewed is_secret signed describes called_for change_eq
    · rw [judge_of_not_called_for called_for]
      exact .skipped is_secret signed describes called_for
  · rw [event_of_nestedTooOften too_often] at admitted
    rw [receive_of_refused admitted rfl]
    exact .nestedTooOften is_secret signed too_often
  · rw [event_eq] at admitted
    rw [receive_of_refused admitted rfl]
    exact .undescribed is_secret signed denotes describes_none
  · rw [event_eq] at admitted
    rw [receive_of_refused admitted rfl]
    exact .unreadable is_secret signed not_too_often denotes_none

/-! ## Which change is reviewed -/

/-- Whatever the service, some lines are logged, and then a change is reviewed once. -/
def LeadsToReview (gate : Gate) (delivery : Delivery) (change : Change) : Prop :=
  ∃ events : List Event, ∀ service, (receive gate service delivery).effects =
    events.map Effect.log ++ (review service change).effects

/-- A delivery passes all checks, for a change: there is a secret, the signature is valid, and the
bytes describe an event that calls for a review of the change. -/
def Admits (gate : Gate) (delivery : Delivery) (change : Change) : Prop :=
  ∃ key event, IsSecret gate.secret key ∧ delivery.IsSigned key ∧
    delivery.Describes gate.nesting event ∧
    CallsForReview event ∧ event.change? = some change

/-- A service that fetches nothing for any change. -/
def probe : Service where
  layers := []
  fetcher := some fun _ => pure ""
  notifier := some fun _ _ => pure ()

theorem filterMap_fetched?_map_log (events : List Event) :
    (events.map Effect.log).filterMap Effect.fetched? = [] := by
  simp [List.filterMap_map, Effect.fetched?]

/-- What a review fetches tells which change is reviewed. -/
theorem filterMap_fetched?_review (change : Change) :
    (review probe change).effects.filterMap Effect.fetched? = [change] := by
  have analyzed : (probe.analyze "").outcome = .ok [] := rfl
  by_cases named : change.IsNamed
  · obtain ⟨event, review_eq⟩ := review_of_isNamed named probe
    rw [review_eq, Service.handle_of_analyzed rfl rfl rfl analyzed named]
    rfl
  · rw [review_of_not_isNamed named, Service.handle_of_unnamed rfl rfl rfl analyzed named]
    rfl

theorem leadsToReview_iff {gate : Gate} {delivery : Delivery} {change : Change} :
    LeadsToReview gate delivery change ↔ Admits gate delivery change := by
  constructor
  · rintro ⟨events, effects_eq⟩
    have fetched := congrArg (List.filterMap Effect.fetched?) (effects_eq probe)
    rw [List.filterMap_append, filterMap_fetched?_map_log, filterMap_fetched?_review,
      List.nil_append] at fetched
    have received := receives gate probe delivery
    generalize (receive gate probe delivery).effects = effects at fetched received
    generalize (receive gate probe delivery).outcome = outcome at received
    cases received with
    | @reviewed key event reviewed is_secret signed describes called_for change_eq =>
        rw [List.filterMap_cons_none rfl, filterMap_fetched?_review] at fetched
        obtain rfl := List.singleton_inj.mp fetched
        exact ⟨key, event, is_secret, signed, describes, called_for, change_eq⟩
    | _ => cases fetched
  · rintro ⟨key, event, is_secret, signed, describes, called_for, change_eq⟩
    refine ⟨[.eventReceived event.action], fun service => ?_⟩
    have admitted := admittedEvent_of_signed is_secret signed
    rw [event_of_describes describes] at admitted
    rw [receive_of_admitted admitted, judge_of_change? called_for, change_eq]
    rfl

/-! ## Changes that can be named -/

theorem outcome_review_eq_ok_iff {service : Service} {change : Change} :
    (review service change).outcome = .ok () ↔ change.IsNamed := by
  by_cases named : change.IsNamed
  · obtain ⟨event, review_eq⟩ := review_of_isNamed named service
    rw [review_eq]
    exact iff_of_true rfl named
  · rw [review_of_not_isNamed named]
    exact iff_of_false nofun named

theorem isShort_of_decode {nesting : Nat} {delivery : Delivery} {value : Json}
    (decoded : delivery.decode nesting = .ok value) : value.IsShort := by
  rw [Delivery.decode] at decoded
  split at decoded
  · split at decoded
    · rename_i payload _
      cases read_eq : Json.read nesting (Text.codePoints payload) with
      | error error =>
          rw [read_eq] at decoded
          cases decoded
      | ok other =>
          rw [read_eq] at decoded
          obtain rfl := Except.ok.inj decoded
          exact Json.isShort_of_read read_eq
    · cases decoded
  · exact Json.isShort_of_readBytes decoded

/-- The changes that deliveries tell of can be named. -/
theorem Admits.isNamed {gate : Gate} {delivery : Delivery} {change : Change}
    (admits : Admits gate delivery change) : change.IsNamed := by
  obtain ⟨key, event, -, -, ⟨value, decoded, accepted⟩, -, change_eq⟩ := admits
  have number_eq := PullRequestEvent.number_of_change? change_eq
  obtain ⟨members, given, rfl, member_eq, taken⟩ :=
    PullRequestEvent.exists_member_of_ofJson accepted number_eq
  exact Field.natAbs_lt_of_integer ((isShort_of_decode decoded).of_member? member_eq) taken

/-- A delivery leads to one review of a change exactly if it passes all checks for it.  It is
received in the way that the first failed check says; nothing about the service shows in the answer,
and nothing about the bytes without a valid signature.  The review of a change fails only if the
number of the change cannot be written, and the changes that deliveries tell of have no such
number. -/
theorem receive_guards_reviews (gate : Gate) (delivery : Delivery) :
    (∀ change, LeadsToReview gate delivery change ↔ Admits gate delivery change) ∧
      (∀ service, Receives gate service delivery (receive gate service delivery).effects
        (receive gate service delivery).outcome) ∧
      (∀ service other, (receive gate service delivery).outcome =
        (receive gate other delivery).outcome) ∧
      (∀ key forged, IsSecret gate.secret key → ¬delivery.IsSigned key → ¬forged.IsSigned key →
        ∀ service other, receive gate service delivery = receive gate other forged) ∧
      (∀ service change, (review service change).outcome = .ok () ↔ change.IsNamed) ∧
      ∀ change, Admits gate delivery change → change.IsNamed := by
  refine ⟨fun _ => leadsToReview_iff, fun service => receives gate service delivery, ?_, ?_, ?_, ?_⟩
  · intro service other
    rfl
  · intro key forged is_secret not_signed forged_not_signed service other
    rw [receive_of_refused (admittedEvent_of_not_signed is_secret not_signed) rfl,
      receive_of_refused (admittedEvent_of_not_signed is_secret forged_not_signed) rfl]
  · intro service change
    exact outcome_review_eq_ok_iff
  · intro change admits
    exact admits.isNamed

/-- A signed delivery about a new pull request leads to a review; two forged ones look alike. -/
theorem receive_guards_opened_pull_request :
    let payload : Json := .ofMembers [
      ("action", "opened"), ("number", (7 : Nat)),
      ("pull_request", .ofMembers [
        ("head", .ofMembers [("sha", "h"), ("ref", "f")]), ("base", .ofMembers [("ref", "main")])]),
      ("repository", .ofMembers [("name", "w"), ("owner", .ofMembers [("login", "a")])])]
    let body : Text.Bytes := payload.write.map fun character => UInt8.ofNat character.toNat
    let gate : Gate :=
      { secret := some "s", nesting := 900, explainBytes := fun _ => "no value"
        explainValue := fun _ => "no event" }
    let delivery : Delivery := { body, signature := some (Signature.sign "s" body) }
    let change : Change :=
      { owner := "a", repository := "w", number := 7, head := "h", title := some ""
        baseBranch := some "main", headBranch := some "f" }
    LeadsToReview gate delivery change ∧
      ∀ service other, receive gate service { delivery with signature := none } =
        receive gate other { body := [], signature := some "" } := by
  intro payload body gate delivery change
  have is_secret : IsSecret gate.secret "s" := ⟨rfl, by decide⟩
  have signed : delivery.IsSigned "s" := by
    rw [Delivery.IsSigned]
  let event : PullRequestEvent :=
    { action := "opened", number := some 7, before := none
      pullRequest := some
        { title := "", body := none, head := ⟨some "h", "f"⟩, base := ⟨none, "main"⟩ }
      repository := some { name := "w", owner := "a" } }
  have describes : delivery.Describes gate.nesting event :=
    describes_of_event (by decide +kernel : gate.event delivery = .ok event)
  obtain ⟨leads_iff, -⟩ := receive_guards_reviews gate delivery
  obtain ⟨-, -, -, alike, -⟩ := receive_guards_reviews gate { delivery with signature := none }
  refine ⟨(leads_iff change).mpr ⟨"s", event, is_secret, signed, describes, .inl rfl, rfl⟩, ?_⟩
  exact alike "s" { body := [], signature := some "" } is_secret nofun (by
    simp [Delivery.IsSigned, Signature.sign])

/-- A signed delivery that describes no event may still not be answered as one. -/
theorem not_answered_many_brackets :
    let body : Text.Bytes := List.replicate 5000 0x5B
    let delivery : Delivery :=
      { body, contentType := some "application/json", signature := some (Signature.sign "s" body) }
    let gate : Gate :=
      { secret := some "s", nesting := 1000, explainBytes := fun _ => "no value"
        explainValue := fun _ => "no event" }
    delivery.IsSigned "s" ∧ (∀ event, ¬delivery.Describes gate.nesting event) ∧
      ∀ service, (receive gate service delivery).outcome = .error (.nesting .array) ∧
        ∀ reason : String, (receive gate service delivery).outcome ≠
          .ok (.detail 400 s!"Invalid webhook payload: {reason}") := by
  intro body delivery gate
  have too_often : delivery.IsNestedTooOften gate.nesting .array :=
    nestedTooOften_of_brackets (by decide : 3 ≤ 1000) (by decide : 1000 < 5000) rfl (by decide)
  have refused : gate.event delivery = .error (.nestedTooOften .array) :=
    event_of_nestedTooOften too_often
  have admitted := (admittedEvent_of_signed (⟨rfl, by decide⟩ : IsSecret gate.secret "s")
    (rfl : delivery.IsSigned "s")).trans refused
  refine ⟨rfl, ?_, fun service => ?_⟩
  · intro event describes
    cases (event_of_describes describes).symm.trans refused
  · rw [receive_of_refused admitted rfl]
    exact ⟨rfl, nofun⟩

end Webhook

end DiffReview
