import DiffReview.Proofs.Handling
import DiffReview.Setup

/-!
# Requests, one after another

A service is asked, again and again, to review a text or to handle a change.  Each request has its
own effects, whatever came before it.  A service acts when it turns to a collaborator: its acts in a
session are those that the requests call for, and no others.
-/

namespace DiffReview

/-! ## Acts -/

/-- An effect by which a service turns to one of its collaborators. -/
def Effect.isAct : Effect → Bool
  | .fetch _ | .call _ | .post _ _ => true
  | _ => false

/-- The acts among some effects, in order. -/
def acts (effects : List Effect) : List Effect :=
  effects.filter Effect.isAct

@[simp]
theorem acts_nil : acts [] = [] := rfl

@[simp]
theorem acts_append (left right : List Effect) : acts (left ++ right) = acts left ++ acts right :=
  List.filter_append left right

theorem acts_cons_of_isAct {effect : Effect} (is_act : effect.isAct = true)
    (effects : List Effect) : acts (effect :: effects) = effect :: acts effects :=
  List.filter_cons_of_pos is_act

theorem acts_cons_of_not_isAct {effect : Effect} (not_act : effect.isAct = false)
    (effects : List Effect) : acts (effect :: effects) = acts effects :=
  List.filter_cons_of_neg (by simp [not_act])

@[simp]
theorem acts_cons_log (event : Event) (effects : List Effect) :
    acts (.log event :: effects) = acts effects :=
  acts_cons_of_not_isAct rfl effects

theorem acts_map_log (events : List Event) : acts (events.map Effect.log) = [] := by
  induction events with
  | nil => rfl
  | cons event events induction => rw [List.map_cons, acts_cons_log, induction]

namespace Service

/-- The collaborators of a service do not act in its name. -/
structure IsDiscreet (service : Service) : Prop where
  fetcher : ∀ fetch ∈ service.fetcher, ∀ change, acts (fetch change).effects = []
  notifier : ∀ notify ∈ service.notifier, ∀ change comments,
    acts (notify change comments).effects = []
  layers : ∀ layer ∈ service.layers, ∀ diff, acts (layer.run diff).opening = []

theorem acts_calls (service : Service) : acts service.calls = service.calls := by
  rw [calls]
  split
  · rw [acts, List.filter_map]
    simp [Function.comp_def, Effect.isAct]
  · rfl

end Service

theorem LayerRun.acts_ownEffects {run : LayerRun} (quiet : acts run.opening = [])
    (limit : Option Duration) (name : String) : acts (run.ownEffects limit name) = [] := by
  cases limit with
  | none => simp [ownEffects, quiet, acts_map_log]
  | some allowed =>
      simp only [ownEffects]
      split_ifs <;> simp [quiet, acts_map_log]

namespace Service

variable {service : Service}

theorem IsDiscreet.acts_layerWork (discreet : service.IsDiscreet) (diff : Diff) :
    acts (service.layerWork diff) = [] := by
  rw [acts, layerWork, List.filter_flatMap, List.flatMap_eq_nil_iff]
  intro layer layer_mem
  exact LayerRun.acts_ownEffects (discreet.layers layer layer_mem diff) _ _

/-- The calls that a diff gives rise to. -/
def dueCalls (service : Service) (diff : Diff) : List Effect :=
  if diff.hasAdditions then service.calls else []

/-- The comments that a diff gives rise to. -/
def dueComments (service : Service) (diff : Diff) : List Comment :=
  if diff.hasAdditions then service.pipeline.comments diff else []

/-- Where no layer has any time, none is called. -/
theorem calls_of_isHalted (halted : service.pipeline.IsHalted) : service.calls = [] := by
  obtain ⟨-, allowed, limit_eq, unwritable⟩ := halted
  have no_time := Duration.isNone_of_isUnwritable unwritable
  have limit_eq : service.limit = some allowed := limit_eq
  rw [calls, limit_eq]
  simp [Duration.letsStart, no_time]

theorem Reviews.perm_acts (discreet : service.IsDiscreet) {diff : Diff} {effects : List Effect}
    {outcome : Except Failure (List Comment)} (reviews : service.Reviews diff effects outcome) :
    (acts effects).Perm (service.dueCalls diff) := by
  cases reviews with
  | nothingAdded adds_none => simp [dueCalls, adds_none]
  | halted adds no_time => simp [dueCalls, adds, calls_of_isHalted no_time]
  | byLayers adds runs once =>
      have called : (acts _).Perm (acts (service.calls ++ service.layerWork diff)) :=
        once.filter Effect.isAct
      simpa [dueCalls, adds, acts_calls, discreet.acts_layerWork] using called

/-- The comments that a diff gives rise to are those that its review ends with, if there are any. -/
theorem Reviews.dueComments_eq {diff : Diff} {effects : List Effect}
    {outcome : Except Failure (List Comment)} (reviews : service.Reviews diff effects outcome) :
    service.dueComments diff = outcome.toOption.getD [] := by
  cases reviews with
  | nothingAdded adds_none => simp [dueComments, adds_none, Except.toOption]
  | halted adds no_time =>
      simp [dueComments, adds, Pipeline.comments_of_isHalted no_time, Except.toOption]
  | byLayers adds runs once => simp [dueComments, adds, Except.toOption]

/-- The diff in a text, if that can be read. -/
def diffOf? (text : String) : Option Diff :=
  (Diff.read text).toOption.map DiffReading.diff

theorem Analyzes.perm_acts (discreet : service.IsDiscreet) {text : String} {effects : List Effect}
    {outcome : Except Failure (List Comment)} (analyzes : service.Analyzes text effects outcome) :
    (acts effects).Perm ((diffOf? text).elim [] service.dueCalls) := by
  cases analyzes with
  | unreadable fails => simp [diffOf?, fails, Except.toOption]
  | @reviewed reading _ _ readable reviews =>
      have note_quiet :
          acts (if 0 < reading.skipped then [.log (.linesSkipped reading.skipped)] else []) =
            [] := by
        split <;> simp
      have diff_eq : diffOf? text = some reading.diff := by
        simp [diffOf?, readable, Except.toOption]
      rw [acts_append, note_quiet, diff_eq]
      exact reviews.perm_acts discreet

theorem Analyzes.dueComments_eq {text : String} {effects : List Effect}
    {outcome : Except Failure (List Comment)} (analyzes : service.Analyzes text effects outcome) :
    (diffOf? text).elim [] service.dueComments = outcome.toOption.getD [] := by
  cases analyzes with
  | unreadable fails => simp [diffOf?, fails, Except.toOption]
  | @reviewed reading _ _ readable reviews =>
      have diff_eq : diffOf? text = some reading.diff := by
        simp [diffOf?, readable, Except.toOption]
      rw [diff_eq]
      exact reviews.dueComments_eq

/-- Where no layer can start, reviewing a text is no act. -/
theorem IsDiscreet.acts_analyze_without_time (discreet : service.IsDiscreet)
    (no_time : service.limit.all Duration.letsStart = false) (text : String) :
    acts (service.analyze text).effects = [] := by
  have called := (service.analyzes text).perm_acts discreet
  have none_due : (diffOf? text).elim [] service.dueCalls = [] := by
    cases diffOf? text with
    | none => rfl
    | some diff => simp [dueCalls, calls, no_time]
  rw [none_due] at called
  exact called.eq_nil

/-- Where a text adds a line, reviewing it is calling the layers. -/
theorem IsDiscreet.perm_acts_analyze (discreet : service.IsDiscreet) {text : String}
    {reading : DiffReading} (readable : Diff.read text = .ok reading)
    (adds : reading.diff.hasAdditions = true) :
    (acts (service.analyze text).effects).Perm service.calls := by
  have diff_eq : diffOf? text = some reading.diff := by simp [diffOf?, readable, Except.toOption]
  have called := (service.analyzes text).perm_acts discreet
  rwa [diff_eq, Option.elim_some, dueCalls, if_pos adds] at called

end Service

/-! ## Planned services -/

/-- An action of two parts acts where one of its parts does. -/
theorem acts_bind {α β : Type} {first : Action α} {next : α → Action β}
    (first_quiet : acts first.effects = [])
    (next_quiet : ∀ result, acts (next result).effects = []) :
    acts (first >>= next).effects = [] := by
  cases ended : first.outcome with
  | ok result => rw [Action.bind_of_ok ended, acts_append, first_quiet, next_quiet, List.nil_append]
  | error failure => rw [Action.bind_of_error ended, first_quiet]

theorem acts_ofDigits {α : Type} (result : Except Text.DigitLimitError α) :
    acts (Action.ofDigits result).effects = [] := by
  cases result <;> rfl

theorem acts_fetch_clone (clone : Clone) (change : Change) :
    acts (clone.fetch change).effects = [] := by
  refine acts_bind rfl fun _ => acts_bind rfl fun _ => ?_
  split <;> rfl

namespace GitHub.Client

theorem acts_exchange (client : Client) (activity : Activity) (request : HttpRequest) :
    acts (client.exchange activity request).effects = [] := by
  rw [exchange]
  split
  · rfl
  · refine acts_bind rfl fun _ => ?_
    split
    · rfl
    · split_ifs
      · rfl
      · rfl
      · exact acts_bind rfl fun _ => rfl

theorem acts_fetch (client : Client) (change : Change) :
    acts (client.fetch change).effects = [] :=
  acts_bind (acts_ofDigits _) fun _ =>
    acts_bind rfl fun _ => acts_bind (acts_ofDigits _) fun _ => client.acts_exchange _ _

theorem acts_post (client : Client) (maxComments : Int) (change : Change)
    (comments : List Comment) : acts (client.post maxComments change comments).effects = [] := by
  rw [post]
  split
  · rfl
  · exact acts_bind (acts_ofDigits _) fun _ =>
      acts_bind (client.acts_exchange _ _) fun _ => acts_bind (acts_ofDigits _) fun _ => rfl

end GitHub.Client

theorem ModelReviewer.acts_opening (reviewer : ModelReviewer) (diff : Diff) :
    acts (reviewer.review diff).opening = [] := by
  simp only [review, consult, ask]
  repeat' split
  all_goals first | rfl | rw [opening_overdue]; rfl

/-- Whatever settings describe, its parts leave fetching, calling and posting to the service. -/
theorem ServicePlan.isDiscreet_service (answer : ModelPlan → Question → ModelAnswer)
    (transport : Transport) (pace : Pace) (nesting : Nat) (plan : ServicePlan) :
    (plan.service answer transport pace nesting).IsDiscreet where
  fetcher := by
    intro fetch fetch_mem change
    obtain ⟨described, -, rfl⟩ := Option.map_eq_some_iff.mp fetch_mem
    cases described with
    | platform token address => exact GitHub.Client.acts_fetch _ change
    | clone found => exact acts_fetch_clone found change
  notifier := by
    intro notify notify_mem change comments
    obtain ⟨described, -, rfl⟩ := Option.map_eq_some_iff.mp notify_mem
    exact GitHub.Client.acts_post _ _ change comments
  layers := by
    intro layer layer_mem diff
    obtain ⟨described, -, rfl⟩ := List.mem_map.mp layer_mem
    cases described with
    | rules => rfl
    | limits bounds => exact congrArg acts (Layer.opening_run_ofLimits bounds diff)
    | model plan timeout options => exact ModelReviewer.acts_opening _ diff

/-! ## Many requests -/

/-- What a service is asked to do. -/
inductive Request
  | analyze (text : String)
  | handle (change : Change)

/-- A request made of a service, whose collaborators are as they are at that time. -/
structure Turn where
  service : Service
  request : Request

namespace Turn

/-- What the service does. -/
def action (turn : Turn) : Action (List Comment) :=
  match turn.request with
  | .analyze text => turn.service.analyze text
  | .handle change => turn.service.handle change

/-- What a request may lead to. -/
def Follows (turn : Turn) (effects : List Effect) (outcome : Except Failure (List Comment)) :
    Prop :=
  match turn.request with
  | .analyze text => turn.service.Analyzes text effects outcome
  | .handle change => turn.service.Handles change effects outcome

/-- The changes to be fetched: the one to be handled, if it can be. -/
def dueFetches (turn : Turn) : List Change :=
  match turn.request, turn.service.notifier, turn.service.fetcher with
  | .handle change, some _, some _ => [change]
  | _, _, _ => []

/-- The text to be reviewed, if there is one. -/
def text? (turn : Turn) : Option String :=
  match turn.request, turn.service.notifier, turn.service.fetcher with
  | .analyze text, _, _ => some text
  | .handle change, some _, some fetch => (fetch change).outcome.toOption
  | _, _, _ => none

/-- The diff to be reviewed, if there is one. -/
def diff? (turn : Turn) : Option Diff :=
  turn.text?.bind Service.diffOf?

/-- The layers to be called. -/
def dueCalls (turn : Turn) : List Effect :=
  turn.diff?.elim [] turn.service.dueCalls

/-- What is to be posted: the comments on a change, if there are any and its number can be
written. -/
def duePosts (turn : Turn) : List (Change × List Comment) :=
  match turn.request, turn.diff?.elim [] turn.service.dueComments with
  | .analyze _, _ => []
  | .handle change, comments =>
    if change.IsNamed ∧ comments ≠ [] then [(change, comments)] else []

/-- Exactly what is due is done: changes are fetched first, then layers are called, and comments are
posted last. -/
def ActsDuly (turn : Turn) (effects : List Effect) : Prop :=
  ∃ calls, calls.Perm turn.dueCalls ∧
    acts effects =
      turn.dueFetches.map Effect.fetch ++ calls ++
        turn.duePosts.map fun (change, comments) => .post change comments

theorem follows_action (turn : Turn) : turn.Follows turn.action.effects turn.action.outcome := by
  rw [Follows, action]
  cases turn.request with
  | analyze text => exact turn.service.analyzes text
  | handle change => exact turn.service.handles change

section Due

variable {service : Service} {change : Change} {notify : Notifier} {fetch : Fetcher}
  (notifier_eq : service.notifier = some notify) (fetcher_eq : service.fetcher = some fetch)

include notifier_eq fetcher_eq

theorem dueFetches_handle : dueFetches ⟨service, .handle change⟩ = [change] := by
  simp [dueFetches, notifier_eq, fetcher_eq]

theorem diff?_of_unfetched {failure : Failure} (fails : (fetch change).outcome = .error failure) :
    diff? ⟨service, .handle change⟩ = none := by
  simp [diff?, text?, notifier_eq, fetcher_eq, fails, Except.toOption]

theorem diff?_of_fetched {text : String} (fetched : (fetch change).outcome = .ok text) :
    diff? ⟨service, .handle change⟩ = Service.diffOf? text := by
  simp [diff?, text?, notifier_eq, fetcher_eq, fetched, Except.toOption]

/-- What is to be posted on a change whose diff was fetched. -/
theorem duePosts_of_fetched {text : String} (fetched : (fetch change).outcome = .ok text)
    {effects : List Effect} {outcome : Except Failure (List Comment)}
    (analyzes : service.Analyzes text effects outcome) :
    duePosts ⟨service, .handle change⟩ =
      if change.IsNamed ∧ outcome.toOption.getD [] ≠ [] then
        [(change, outcome.toOption.getD [])]
      else [] := by
  rw [duePosts, diff?_of_fetched notifier_eq fetcher_eq fetched, analyzes.dueComments_eq]

end Due

variable {service : Service}

theorem actsDuly_of_analyzes (discreet : service.IsDiscreet) {text : String}
    {effects : List Effect} {outcome : Except Failure (List Comment)}
    (analyzes : service.Analyzes text effects outcome) :
    ActsDuly ⟨service, .analyze text⟩ effects := by
  refine ⟨acts effects, ?_, ?_⟩
  · simpa [dueCalls, diff?, text?] using analyzes.perm_acts discreet
  · simp [dueFetches, duePosts]

/-- A change whose diff was fetched: the acts of its review are due, and what follows them is what
is to be posted. -/
theorem actsDuly_of_fetched (discreet : service.IsDiscreet) {change : Change} {notify : Notifier}
    {fetch : Fetcher} (notifier_eq : service.notifier = some notify)
    (fetcher_eq : service.fetcher = some fetch) {text : String}
    (fetched : (fetch change).outcome = .ok text) {effects : List Effect}
    {outcome : Except Failure (List Comment)} (analyzes : service.Analyzes text effects outcome)
    {rest : List Effect}
    (posted : acts rest = if change.IsNamed ∧ outcome.toOption.getD [] ≠ [] then
      [.post change (outcome.toOption.getD [])] else []) :
    ActsDuly ⟨service, .handle change⟩
      (.fetch change :: (fetch change).effects ++ effects ++ rest) := by
  have quiet := discreet.fetcher fetch fetcher_eq change
  refine ⟨acts effects, ?_, ?_⟩
  · rw [dueCalls, diff?_of_fetched notifier_eq fetcher_eq fetched]
    exact analyzes.perm_acts discreet
  · rw [List.cons_append, List.cons_append, acts_cons_of_isAct rfl, acts_append, acts_append, quiet,
      posted, dueFetches_handle notifier_eq fetcher_eq,
      duePosts_of_fetched notifier_eq fetcher_eq fetched analyzes]
    split <;> rfl

theorem actsDuly_of_handles (discreet : service.IsDiscreet) {change : Change}
    {effects : List Effect} {outcome : Except Failure (List Comment)}
    (handles : service.Handles change effects outcome) :
    ActsDuly ⟨service, .handle change⟩ effects := by
  cases handles with
  | withoutNotifier absent =>
      refine ⟨[], ?_, ?_⟩
      · simp [dueCalls, diff?, text?, absent]
      · simp [dueFetches, duePosts, diff?, text?, absent]
  | withoutFetcher present absent =>
      refine ⟨[], ?_, ?_⟩
      · simp [dueCalls, diff?, text?, present, absent]
      · simp [dueFetches, duePosts, diff?, text?, present, absent]
  | unfetched notifier_eq fetcher_eq fails =>
      have quiet := discreet.fetcher _ fetcher_eq change
      have no_diff := diff?_of_unfetched notifier_eq fetcher_eq fails
      refine ⟨[], ?_, ?_⟩
      · simp [dueCalls, no_diff]
      · rw [acts_cons_of_isAct rfl, quiet, dueFetches_handle notifier_eq fetcher_eq]
        simp [duePosts, no_diff]
  | unreviewed notifier_eq fetcher_eq fetched analyzes =>
      rw [← List.append_nil (_ ++ _)]
      exact actsDuly_of_fetched discreet notifier_eq fetcher_eq fetched analyzes
        (by simp [Except.toOption])
  | unnamed notifier_eq fetcher_eq fetched analyzes unwritable =>
      rw [← List.append_nil (_ ++ _)]
      exact actsDuly_of_fetched discreet notifier_eq fetcher_eq fetched analyzes
        (by simp [unwritable])
  | nothingFound notifier_eq fetcher_eq fetched analyzes named =>
      exact actsDuly_of_fetched discreet notifier_eq fetcher_eq fetched analyzes
        (by simp [Except.toOption])
  | @posted notify _ _ _ comments notifier_eq fetcher_eq fetched analyzes named found =>
      have post_quiet := discreet.notifier _ notifier_eq change comments
      refine actsDuly_of_fetched discreet notifier_eq fetcher_eq fetched analyzes ?_
      rw [acts_cons_log, acts_cons_of_isAct rfl, post_quiet]
      exact (if_pos ⟨named, found⟩).symm

theorem actsDuly_action (turn : Turn) (discreet : turn.service.IsDiscreet) :
    turn.ActsDuly turn.action.effects := by
  obtain ⟨service, request⟩ := turn
  cases request with
  | analyze text => exact actsDuly_of_analyzes discreet (service.analyzes text)
  | handle change => exact actsDuly_of_handles discreet (service.handles change)

end Turn

/-- What has happened since a service was set up. -/
structure Session where
  effects : List Effect := []
  outcomes : List (Except Failure (List Comment)) := []

namespace Session

/-- The session after one more turn. -/
def take (session : Session) (turn : Turn) : Session where
  effects := session.effects ++ turn.action.effects
  outcomes := session.outcomes ++ [turn.action.outcome]

/-- The session of some turns. -/
def run (turns : List Turn) : Session :=
  turns.foldl take {}

/-- What a turn adds does not depend on the session before it. -/
theorem foldl_take (session : Session) (turns : List Turn) :
    turns.foldl take session =
      { effects := session.effects ++ turns.flatMap fun turn => turn.action.effects
        outcomes := session.outcomes ++ turns.map fun turn => turn.action.outcome } := by
  induction turns generalizing session with
  | nil => simp
  | cons turn turns induction =>
      rw [List.foldl_cons, induction]
      simp [take]

/-- A session is made of what its requests lead to, one after another, each as the protocol says and
with exactly the acts that are due. -/
theorem run_follows_protocol (turns : List Turn) :
    (run turns).effects = turns.flatMap (fun turn => turn.action.effects) ∧
      (run turns).outcomes = turns.map (fun turn => turn.action.outcome) ∧
        ∀ turn ∈ turns, turn.Follows turn.action.effects turn.action.outcome ∧
          (turn.service.IsDiscreet → turn.ActsDuly turn.action.effects) := by
  have run_eq : run turns = _ := foldl_take {} turns
  refine ⟨?_, ?_, fun turn _ => ⟨turn.follows_action, turn.actsDuly_action⟩⟩
  · exact congrArg effects run_eq
  · exact congrArg outcomes run_eq

/-- A change is handled and posted, cannot be posted, and its text is reviewed again. -/
theorem run_three_requests :
    let change : Change :=
      { owner := "o", repository := "r", number := 1, head := "h" }
    let text := "diff --git a/x b/x\n@@ -0,0 +1 @@\n+debugger"
    let service : Service :=
      { layers := [.ofRules [.debuggerStatement]]
        fetcher := some fun _ => pure text
        notifier := some fun _ _ => pure () }
    let turns : List Turn :=
      [⟨service, .handle change⟩, ⟨{ service with notifier := none }, .handle change⟩,
        ⟨service, .analyze text⟩]
    turns.map Turn.dueFetches = [[change], [], []] ∧
      turns.map (fun turn => turn.dueCalls.length) = [1, 0, 1] ∧
        turns.map (fun turn => turn.duePosts.length) = [1, 0, 0] ∧
          (run turns).effects = turns.flatMap (fun turn => turn.action.effects) ∧
            ∀ turn ∈ turns, turn.Follows turn.action.effects turn.action.outcome ∧
              turn.ActsDuly turn.action.effects := by
  intro change text service turns
  obtain ⟨effects_eq, -, protocol⟩ := run_follows_protocol turns
  refine ⟨by decide +kernel, by decide +kernel, by decide +kernel, effects_eq, ?_⟩
  intro turn turn_mem
  obtain ⟨follows, acts_duly⟩ := protocol turn turn_mem
  refine ⟨follows, acts_duly ?_⟩
  constructor <;> aesop

/-- A layer that has no time is not called, although there is a line to look at; a limit that
cannot be written ends the review; and nothing is posted on a change whose number cannot be written,
although there is something to say. -/
theorem not_due_without_time_or_name :
    let text := "diff --git a/x b/x\n@@ -0,0 +1 @@\n+debugger"
    let service (limit : Option Duration) : Service :=
      { layers := [.ofRules [.debuggerStatement]]
        limit
        fetcher := some fun _ => pure text
        notifier := some fun _ _ => pure () }
    let change : Change :=
      { owner := "o", repository := "r", number := Nat.pow 10 Text.maxDigits, head := "h" }
    (Diff.read text).toOption.any (fun reading => reading.diff.hasAdditions) = true ∧
      acts ((service (some (.whole 0))).analyze text).effects = [] ∧
      ((service (some (.whole (-Nat.pow 10 Text.maxDigits)))).analyze text).outcome =
        .error (.digits .writing) ∧
      (∃ comment, ((service none).analyze text).outcome = .ok [comment]) ∧
      ((service none).handle change).outcome = .error (.digits .writing) ∧
      acts ((service none).handle change).effects = [.fetch change, .call 0] := by
  intro text service change
  have discreet : ∀ limit, (service limit).IsDiscreet := by
    intro limit
    constructor <;> aesop
  have adds : (Diff.read text).toOption.any (fun reading => reading.diff.hasAdditions) = true := by
    decide +kernel
  obtain ⟨reading, readable, reading_adds⟩ := exists_ok_of_toOption_any adds
  have halted : (service (some (.whole (-Nat.pow 10 Text.maxDigits)))).pipeline.IsHalted :=
    ⟨List.cons_ne_nil _ _, _, rfl, Quantity.isUnwritable_neg_pow⟩
  have unnamed : ¬change.IsNamed := Change.not_isNamed_of_number_eq_pow rfl
  obtain ⟨comment, found⟩ : ∃ comment, ((service none).analyze text).outcome = .ok [comment] := by
    have counted : ((service none).analyze text).outcome.toOption.any
        (fun comments => comments.length = 1) = true := by
      decide +kernel
    obtain ⟨comments, ended, one⟩ := exists_ok_of_toOption_any counted
    obtain ⟨comment, rfl⟩ := List.length_eq_one_iff.mp (of_decide_eq_true one)
    exact ⟨comment, ended⟩
  have called : acts ((service none).analyze text).effects = [.call 0] :=
    List.perm_singleton.mp ((discreet none).perm_acts_analyze readable reading_adds)
  have handled : (service none).handle change = _ :=
    Service.handle_of_unnamed rfl rfl rfl found unnamed
  refine ⟨adds, (discreet _).acts_analyze_without_time (by decide) text, ?_, ⟨comment, found⟩,
    congrArg Action.outcome handled, ?_⟩
  · rw [Service.outcome_analyze _ readable, reading_adds, if_pos rfl,
      Pipeline.run_of_isHalted halted]
    rfl
  · rw [handled, acts_append, called]
    rfl

end Session

end DiffReview
