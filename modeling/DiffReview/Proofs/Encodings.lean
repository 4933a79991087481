import DiffReview.Proofs.Admission
import DiffReview.Proofs.Form
import DiffReview.Proofs.Json.Bytes

/-!
# Deliveries as forms

The platform can deliver the same text by itself or as a value in a form.  Either way the text is
read alike, and so the same becomes of the delivery.
-/

namespace DiffReview.Webhook

open Text (encodeUtf8)

namespace Delivery

/-- The body is a text by itself, and it is not said to be a form. -/
structure IsPlain (text : String) (delivery : Delivery) : Prop where
  /-- The body is the text. -/
  body_eq : delivery.body = encodeUtf8 text
  /-- What the body is said to be does not start as the content type of a form. -/
  other_type : ∀ contentType, delivery.contentType = some contentType →
    ¬formType.toList <+: contentType.toList

/-- The body is a form with a text as its payload, and it is said to be one. -/
structure IsFormOf (text : String) (delivery : Delivery) : Prop where
  /-- The payload stands between fields of other names. -/
  body_eq : ∃ before after, (∀ field ∈ before, Form.IsOther "payload" field) ∧
    (∀ field ∈ after, Form.IsOther "payload" field) ∧
    delivery.body = encodeUtf8 (String.ofList (Form.withValue "payload" text.toList before after))
  /-- Parameters may follow the content type. -/
  form_type : ∃ parameters, delivery.contentType = some (formType ++ parameters)

theorem isForm_eq_true_iff {delivery : Delivery} :
    delivery.isForm = true ↔
      ∃ contentType, delivery.contentType = some contentType ∧
        formType.toList <+: contentType.toList := by
  simp only [isForm, Option.any_eq_true, List.isPrefixOf_iff_prefix]

section Decoding

variable {nesting : Nat} {text : String} {value : Json} {delivery : Delivery}

theorem IsPlain.decode_eq (plain : delivery.IsPlain text)
    (accepted : Json.readString nesting text = .ok value) :
    delivery.decode nesting = .ok value := by
  have no_form : ¬delivery.isForm = true := by
    rw [isForm_eq_true_iff]
    exact fun ⟨contentType, said, starts⟩ => plain.other_type contentType said starts
  rw [decode, if_neg no_form, plain.body_eq, ← String.ofList_toList (s := text)]
  exact Json.readBytes_encodeUtf8 accepted

theorem IsFormOf.payload?_body (form : delivery.IsFormOf text) (some_text : text.toList ≠ []) :
    payload? delivery.body = some text.toList := by
  obtain ⟨before, after, before_other, after_other, body_eq⟩ := form.body_eq
  have kept : "payload".toList.all Form.keptCharacters.contains = true := by decide +kernel
  rw [payload?, body_eq, Text.decodeUtf8?_encodeUtf8]
  exact congrArg (fun found : Option (List Char) => some (found.getD ['\x7b', '\x7d']))
    (Form.value?_withValue (by simpa using kept) some_text before_other after_other)

theorem IsFormOf.decode_eq (form : delivery.IsFormOf text)
    (accepted : Json.readString nesting text = .ok value) :
    delivery.decode nesting = .ok value := by
  have is_form : delivery.isForm = true := by
    obtain ⟨parameters, said⟩ := form.form_type
    rw [isForm_eq_true_iff]
    exact ⟨_, said, by simp [String.toList_append]⟩
  obtain ⟨character, others, text_eq, -⟩ := Json.exists_cons_of_read accepted
  have some_text : text.toList ≠ [] := by simp [text_eq]
  rw [decode, if_pos is_form, form.payload?_body some_text]
  exact congrArg (Except.mapError Json.BytesError.invalid) accepted

end Decoding

end Delivery

/-- Signed deliveries that denote the same value are let in alike. -/
theorem admittedEvent_eq_of_decode_eq {gate : Gate} {delivery other : Delivery} {value : Json}
    (decoded : delivery.decode gate.nesting = .ok value)
    (other_decoded : other.decode gate.nesting = .ok value)
    (signed : ∀ key, IsSecret gate.secret key → delivery.IsSigned key ∧ other.IsSigned key) :
    gate.admittedEvent delivery = gate.admittedEvent other := by
  by_cases configured : ∃ key, IsSecret gate.secret key
  · obtain ⟨key, is_secret⟩ := configured
    obtain ⟨delivery_signed, other_signed⟩ := signed key is_secret
    rw [admittedEvent_of_signed is_secret delivery_signed,
      admittedEvent_of_signed is_secret other_signed, Gate.event, Gate.event, decoded,
      other_decoded]
  · have absent : ∀ key, ¬IsSecret gate.secret key :=
      fun key is_secret => configured ⟨key, is_secret⟩
    rw [admittedEvent_of_no_secret absent, admittedEvent_of_no_secret absent]

/-- A text that denotes a value is read alike by itself and as the payload of a form, and so signed
deliveries of it are received alike, with the same answer and the same review, if any. -/
theorem receive_form_eq_plain {nesting : Nat} {text : String} {value : Json}
    (accepted : Json.readString nesting text = .ok value) {form plain : Delivery}
    (is_form : form.IsFormOf text) (is_plain : plain.IsPlain text) :
    form.decode nesting = .ok value ∧ plain.decode nesting = .ok value ∧
      ∀ gate : Gate, gate.nesting = nesting →
        (∀ key, IsSecret gate.secret key → form.IsSigned key ∧ plain.IsSigned key) →
          gate.verdict form = gate.verdict plain ∧
            ∀ service, receive gate service form = receive gate service plain := by
  have form_decoded := is_form.decode_eq accepted
  have plain_decoded := is_plain.decode_eq accepted
  refine ⟨form_decoded, plain_decoded, ?_⟩
  rintro gate rfl signed
  have admitted_eq : gate.admittedEvent form = gate.admittedEvent plain :=
    admittedEvent_eq_of_decode_eq form_decoded plain_decoded signed
  have verdict_eq : gate.verdict form = gate.verdict plain := by
    rw [Gate.verdict, Gate.verdict, admitted_eq]
  refine ⟨verdict_eq, fun service => ?_⟩
  rw [receive, receive, Gate.deliveryEvents, Gate.deliveryEvents, admitted_eq, verdict_eq]

/-- A text with the marks of forms in it is received alike between other fields and by itself. -/
theorem receive_form_eq_plain_marks :
    let text := "\x7b\"action\": \"a&b=c+d%26é\"\x7d"
    let before := ["x=1".toList, "y".toList]
    let after := ["payloads=2".toList]
    let form_body := encodeUtf8
      (String.ofList (Form.withValue "payload" text.toList before after))
    let form : Delivery :=
      { body := form_body, contentType := some (formType ++ "; charset=utf-8")
        signature := some (Signature.sign "s" form_body) }
    let plain : Delivery :=
      { body := encodeUtf8 text, contentType := some "application/json"
        signature := some (Signature.sign "s" (encodeUtf8 text)) }
    let gate : Gate :=
      { secret := some "s", nesting := 900, explainBytes := fun _ => "no value"
        explainValue := fun _ => "no event" }
    form.decode gate.nesting = .ok (.ofMembers [("action", "a&b=c+d%26é")]) ∧
      ∀ service, receive gate service form = receive gate service plain := by
  have accepted : Json.readString 900 "\x7b\"action\": \"a&b=c+d%26é\"\x7d" =
      .ok (.ofMembers [("action", "a&b=c+d%26é")]) := by
    rfl
  intro text before after form_body form plain gate
  have is_form : form.IsFormOf text := by
    refine ⟨⟨before, after, ?_, ?_, rfl⟩, _, rfl⟩
    · rw [List.forall_mem_cons, List.forall_mem_singleton]
      exact ⟨⟨by decide +kernel, by decide +kernel⟩, ⟨by decide +kernel, by decide +kernel⟩⟩
    · rw [List.forall_mem_singleton]
      exact ⟨by decide +kernel, by decide +kernel⟩
  have is_plain : plain.IsPlain text := ⟨rfl, by rintro _ ⟨⟩; decide +kernel⟩
  obtain ⟨form_decoded, -, alike⟩ := receive_form_eq_plain accepted is_form is_plain
  refine ⟨form_decoded, fun service => (alike gate rfl ?_).2 service⟩
  rintro key ⟨secret_eq, -⟩
  obtain rfl := Option.some.inj secret_eq
  exact ⟨rfl, rfl⟩

/-- A content type that merely starts as that of a form is taken for it. -/
theorem plain_suffixed_type_taken_for_form :
    let text := "\x7b\"action\":\"closed\"\x7d"
    let form_body := encodeUtf8 (String.ofList (Form.withValue "payload" text.toList [] []))
    let form : Delivery :=
      { body := form_body, contentType := some formType
        signature := some (Signature.sign "s" form_body) }
    let plain : Delivery :=
      { body := encodeUtf8 text, contentType := some "application/x-www-form-urlencoded+json"
        signature := some (Signature.sign "s" (encodeUtf8 text)) }
    let gate : Gate :=
      { secret := some "s", nesting := 900, explainBytes := fun _ => "no value"
        explainValue := fun _ => "no event" }
    (∀ parameters, plain.contentType ≠ some (formType ++ ";" ++ parameters)) ∧
      plain.contentType ≠ form.contentType ∧
      form.decode gate.nesting = .ok (.ofMembers [("action", "closed")]) ∧
      plain.decode gate.nesting = .ok (.ofMembers []) ∧
      ∀ service,
        (receive gate service form).outcome =
            .ok (.ok (.ofMembers [("received", true), ("skipped", true)])) ∧
          (receive gate service plain).outcome =
            .ok (.detail 400 "Invalid webhook payload: no event") := by
  have accepted : Json.readString 900 "\x7b\"action\":\"closed\"\x7d" =
      .ok (.ofMembers [("action", "closed")]) := by
    rfl
  intro text form_body form plain gate
  have is_secret : IsSecret gate.secret "s" := ⟨rfl, by decide⟩
  have is_form : form.IsFormOf text := ⟨⟨[], [], nofun, nofun, rfl⟩, "", rfl⟩
  have form_decoded := is_form.decode_eq accepted
  have payload_eq : payload? plain.body = some ['\x7b', '\x7d'] := by
    have body_eq : plain.body = encodeUtf8 (String.ofList text.toList) := by
      rw [String.ofList_toList]
    rw [payload?, body_eq, Text.decodeUtf8?_encodeUtf8]
    decide +kernel
  have plain_decoded : plain.decode gate.nesting = .ok (.ofMembers []) := by
    rw [Delivery.decode, if_pos (by decide +kernel), payload_eq]
    rfl
  have form_event : gate.event form = .ok
      { action := "closed", number := none, before := none, pullRequest := none
        repository := none } := by
    rw [Gate.event, form_decoded]
    rfl
  have plain_event : gate.event plain = .error (.payloadInvalid "no event") := by
    rw [Gate.event, plain_decoded]
    rfl
  have form_signed : form.IsSigned "s" := rfl
  have plain_signed : plain.IsSigned "s" := rfl
  refine ⟨?_, by decide, form_decoded, plain_decoded, fun service => ⟨?_, ?_⟩⟩
  · intro parameters same
    have lists_eq := congrArg String.toList (Option.some.inj same)
    rw [String.toList_append, String.toList_append, List.append_assoc] at lists_eq
    have behind_eq : "+json".toList = ";".toList ++ parameters.toList :=
      (List.append_right_inj formType.toList).mp lists_eq
    simp at behind_eq
  · rw [receive_of_admitted ((admittedEvent_of_signed is_secret form_signed).trans form_event)]
    rfl
  · rw [receive_of_refused ((admittedEvent_of_signed is_secret plain_signed).trans plain_event)
      rfl]
    rfl

end DiffReview.Webhook
