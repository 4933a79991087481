import DiffReview.Proofs.Isolation

/-!
# What a service does when it is asked

All that can happen when a service reviews a text or handles a change, one rule for each way it may
go.  Handling a change needs a notifier and a fetcher; it fetches once, lets each layer work once if
the diff adds a line and there is time, and posts once if anything was found and the number of the
change can be written.
-/

namespace DiffReview

/-! ## Changes with a name -/

namespace Change

/-- The number of the change can be written. -/
def IsNamed (change : Change) : Prop :=
  change.number.natAbs < Nat.pow 10 Text.maxDigits

instance (change : Change) : Decidable change.IsNamed :=
  Nat.decLt _ _

/-- The short name of the change, however long its number is. -/
def usualSlug (change : Change) : String :=
  s!"{change.owner}/{change.repository}#{change.number}"

theorem slug_of_isNamed {change : Change} (named : change.IsNamed) :
    change.slug = .ok change.usualSlug := by
  rw [slug, numberText, Text.integerText_eq_ok_iff.mpr ⟨named, rfl⟩]
  rfl

theorem slug_of_not_isNamed {change : Change} (unwritable : ¬change.IsNamed) :
    change.slug = .error .writing := by
  rw [slug, numberText,
    Text.integerText_eq_error_iff.mpr ⟨Nat.le_of_not_lt unwritable, rfl⟩]
  rfl

theorem not_isNamed_of_number_eq_pow {change : Change}
    (number_eq : change.number = (Nat.pow 10 Text.maxDigits : Nat)) : ¬change.IsNamed := by
  rw [IsNamed, number_eq, Int.natAbs_natCast]
  exact Nat.lt_irrefl _

end Change

/-! ## Layers at work -/

/-- Whether a limit lets layers start: there is some time, but not too much for a clock. -/
def Duration.letsStart (allowed : Duration) : Bool :=
  !allowed.isNone && !allowed.isTooLarge

namespace LayerRun

/-- What a layer of the given name does, apart from being called: what it does before it waits, what
it logs at its end, and the entry that tells how it ended. -/
def ownEffects (limit : Option Duration) (name : String) (run : LayerRun) : List Effect :=
  let seen := [Effect.log ((run.result limit).usualEvent name)]
  let closing := run.closing.map Effect.log
  match limit with
  | none => run.opening ++ closing ++ seen
  | some allowed =>
    (if allowed.letsStart && !allowed.isBrief then run.opening else []) ++
      (if allowed.isTooLarge || run.arrival.isLate allowed then [] else closing) ++ seen

/-- A layer is called once, if it can start, and then does its work. -/
theorem flatMap_snd_steps (limit : Option Duration) (position : Nat) (name : String)
    (run : LayerRun) :
    (run.start limit position ++
        run.finishWith limit ((run.result limit).usualEvent name)).flatMap Prod.snd =
      (if limit.all Duration.letsStart then [.call position] else []) ++
        run.ownEffects limit name := by
  cases limit with
  | none => simp [start, finishWith, ownEffects]
  | some allowed =>
      by_cases none : allowed.isNone <;> by_cases tooLarge : allowed.isTooLarge <;>
        by_cases brief : allowed.isBrief <;> by_cases late : run.arrival.isLate allowed <;>
          simp [start, finishWith, ownEffects, openingWithin, Duration.letsStart, none, tooLarge,
            brief, late]

end LayerRun

namespace Service

/-- The calls of all layers, if they can start. -/
def calls (service : Service) : List Effect :=
  if service.limit.all Duration.letsStart then
    (List.range service.layers.length).map Effect.call
  else
    []

/-- What the layers do with a diff, apart from being called. -/
def layerWork (service : Service) (diff : Diff) : List Effect :=
  service.layers.flatMap fun layer => (layer.run diff).ownEffects service.limit layer.name

theorem flatMap_call_zipIdx (service : Service) :
    (service.layers.zipIdx.flatMap fun placed =>
      if service.limit.all Duration.letsStart then [Effect.call placed.2] else []) =
        service.calls := by
  rw [calls]
  split
  · rw [List.range_eq_range', ← List.zipIdx_map_snd 0 service.layers, List.map_map,
      List.map_eq_flatMap]
    rfl
  · simp

theorem flatMap_ownEffects_zipIdx (service : Service) (diff : Diff) :
    (service.layers.zipIdx.flatMap fun placed =>
      (placed.1.run diff).ownEffects service.limit placed.1.name) = service.layerWork diff := by
  conv_rhs => rw [layerWork, ← List.zipIdx_map_fst 0 service.layers, List.flatMap_map]

/-- Each layer is called once and does its work; nothing else happens. -/
theorem perm_usualEffects (service : Service) (diff : Diff) :
    (service.pipeline.usualEffects diff).Perm (service.calls ++ service.layerWork diff) := by
  have inOrder : (service.pipeline.usualEffects diff).Perm
      ((service.pipeline.placedLayers.flatMap (service.pipeline.usualSteps diff)).flatMap
        Prod.snd) :=
    (List.mergeSort_perm _ _).flatMap_right Prod.snd
  have split : (service.pipeline.placedLayers.flatMap (service.pipeline.usualSteps diff)).flatMap
      Prod.snd = service.layers.zipIdx.flatMap fun placed =>
        (if service.limit.all Duration.letsStart then [.call placed.2] else []) ++
          (placed.1.run diff).ownEffects service.limit placed.1.name := by
    rw [List.flatMap_assoc]
    exact List.flatMap_congr fun placed _ => LayerRun.flatMap_snd_steps _ _ _ _
  rw [split] at inOrder
  rw [← flatMap_call_zipIdx, ← flatMap_ownEffects_zipIdx]
  exact inOrder.trans (List.flatMap_append_perm _ _ _).symm

/-! ## One request -/

/-- What is done with a diff that has been read, and how that ends. -/
inductive Reviews (service : Service) (diff : Diff) :
    List Effect → Except Failure (List Comment) → Prop
  | nothingAdded (adds_none : diff.hasAdditions = false) :
      Reviews service diff [.log .noAdditions] (.ok [])
  | halted (adds : diff.hasAdditions = true) (no_time : service.pipeline.IsHalted) :
      Reviews service diff [] (.error (.digits .writing))
  | byLayers {work : List Effect} (adds : diff.hasAdditions = true)
      (runs : ¬service.pipeline.IsHalted)
      (once : work.Perm (service.calls ++ service.layerWork diff)) :
      Reviews service diff (work ++ [.log (service.pipeline.summaryEvent diff)])
        (.ok (service.pipeline.comments diff))

/-- What is done with a text, and how that ends. -/
inductive Analyzes (service : Service) (text : String) :
    List Effect → Except Failure (List Comment) → Prop
  | unreadable {error : Text.DigitLimitError} (fails : Diff.read text = .error error) :
      Analyzes service text [] (.error (.digits error))
  | reviewed {reading : DiffReading} {effects : List Effect}
      {outcome : Except Failure (List Comment)} (readable : Diff.read text = .ok reading)
      (reviews : service.Reviews reading.diff effects outcome) :
      Analyzes service text
        ((if 0 < reading.skipped then [.log (.linesSkipped reading.skipped)] else []) ++ effects)
        outcome

/-- What is done with a change, and how that ends. -/
inductive Handles (service : Service) (change : Change) :
    List Effect → Except Failure (List Comment) → Prop
  | withoutNotifier (absent : service.notifier = none) :
      Handles service change [] (.error notifierMissing)
  | withoutFetcher {notify : Notifier} (present : service.notifier = some notify)
      (absent : service.fetcher = none) : Handles service change [] (.error fetcherMissing)
  | unfetched {notify : Notifier} {fetch : Fetcher} {failure : Failure}
      (notifier_eq : service.notifier = some notify) (fetcher_eq : service.fetcher = some fetch)
      (fails : (fetch change).outcome = .error failure) :
      Handles service change (.fetch change :: (fetch change).effects) (.error failure)
  | unreviewed {notify : Notifier} {fetch : Fetcher} {text : String} {effects : List Effect}
      {failure : Failure} (notifier_eq : service.notifier = some notify)
      (fetcher_eq : service.fetcher = some fetch) (fetched : (fetch change).outcome = .ok text)
      (analyzes : service.Analyzes text effects (.error failure)) :
      Handles service change (.fetch change :: (fetch change).effects ++ effects) (.error failure)
  | unnamed {notify : Notifier} {fetch : Fetcher} {text : String} {effects : List Effect}
      {comments : List Comment} (notifier_eq : service.notifier = some notify)
      (fetcher_eq : service.fetcher = some fetch) (fetched : (fetch change).outcome = .ok text)
      (analyzes : service.Analyzes text effects (.ok comments)) (unwritable : ¬change.IsNamed) :
      Handles service change (.fetch change :: (fetch change).effects ++ effects)
        (.error (.digits .writing))
  | nothingFound {notify : Notifier} {fetch : Fetcher} {text : String} {effects : List Effect}
      (notifier_eq : service.notifier = some notify) (fetcher_eq : service.fetcher = some fetch)
      (fetched : (fetch change).outcome = .ok text)
      (analyzes : service.Analyzes text effects (.ok [])) (named : change.IsNamed) :
      Handles service change
        (.fetch change :: (fetch change).effects ++ effects ++
          [.log (.issuesFound 0 change.usualSlug)])
        (.ok [])
  | posted {notify : Notifier} {fetch : Fetcher} {text : String} {effects : List Effect}
      {comments : List Comment} (notifier_eq : service.notifier = some notify)
      (fetcher_eq : service.fetcher = some fetch) (fetched : (fetch change).outcome = .ok text)
      (analyzes : service.Analyzes text effects (.ok comments)) (named : change.IsNamed)
      (found : comments ≠ []) :
      Handles service change
        (.fetch change :: (fetch change).effects ++ effects ++
          .log (.issuesFound comments.length change.usualSlug) ::
            .post change comments :: (notify change comments).effects)
        ((notify change comments).outcome.map fun _ => comments)

theorem readDiff_of_ok {text : String} {reading : DiffReading}
    (readable : Diff.read text = .ok reading) :
    readDiff text =
      ⟨if 0 < reading.skipped then [.log (.linesSkipped reading.skipped)] else [],
        .ok reading.diff⟩ := by
  rw [readDiff, readable, Action.ofDigits, Action.bind_of_ok (Action.pure_outcome reading)]
  by_cases skips : 0 < reading.skipped
  · rw [if_pos skips, if_pos skips]
    rfl
  · rw [if_neg skips, if_neg skips]
    rfl

theorem readDiff_of_error {text : String} {error : Text.DigitLimitError}
    (fails : Diff.read text = .error error) : readDiff text = ⟨[], .error (.digits error)⟩ := by
  rw [readDiff, fails, Action.ofDigits, Action.bind_of_error (Action.fail_outcome _)]
  rfl

theorem analyzes (service : Service) (text : String) :
    service.Analyzes text (service.analyze text).effects (service.analyze text).outcome := by
  cases read_eq : Diff.read text with
  | error error =>
      have failed := readDiff_of_error read_eq
      rw [analyze, Action.bind_of_error (by rw [failed])]
      rw [failed]
      exact .unreadable read_eq
  | ok reading =>
      have succeeded := readDiff_of_ok read_eq
      rw [analyze, Action.bind_of_ok (by rw [succeeded])]
      rw [succeeded]
      cases adds : reading.diff.hasAdditions with
      | false => exact .reviewed read_eq (.nothingAdded adds)
      | true =>
          rw [if_pos rfl]
          by_cases halted : service.pipeline.IsHalted
          · rw [Pipeline.run_of_isHalted halted]
            exact .reviewed read_eq (.halted adds halted)
          · rw [Pipeline.run_of_not_isHalted halted]
            exact .reviewed read_eq
              (.byLayers adds halted (service.perm_usualEffects reading.diff))

section Handling

variable {service : Service} {change : Change} {notify : Notifier} {fetch : Fetcher}
  (notifier_eq : service.notifier = some notify) (fetcher_eq : service.fetcher = some fetch)

include notifier_eq fetcher_eq

theorem handle_of_unfetched {failure : Failure}
    (fails : (fetch change).outcome = .error failure) :
    service.handle change = ⟨.fetch change :: (fetch change).effects, .error failure⟩ := by
  simp [handle, notifier_eq, fetcher_eq, bind, Action.andThen, fails]

variable {text : String} (fetched : (fetch change).outcome = .ok text)

include fetched

theorem handle_of_unreviewed {failure : Failure}
    (fails : (service.analyze text).outcome = .error failure) :
    service.handle change =
      ⟨.fetch change :: (fetch change).effects ++ (service.analyze text).effects,
        .error failure⟩ := by
  simp [handle, notifier_eq, fetcher_eq, bind, Action.andThen, fetched, fails]

theorem handle_of_unnamed {comments : List Comment}
    (analyzed : (service.analyze text).outcome = .ok comments) (unwritable : ¬change.IsNamed) :
    service.handle change =
      ⟨.fetch change :: (fetch change).effects ++ (service.analyze text).effects,
        .error (.digits .writing)⟩ := by
  simp [handle, notifier_eq, fetcher_eq, bind, Action.andThen, fetched, analyzed,
    Change.slug_of_not_isNamed unwritable, Action.ofDigits]

theorem handle_of_analyzed {comments : List Comment}
    (analyzed : (service.analyze text).outcome = .ok comments) (named : change.IsNamed) :
    service.handle change =
      ⟨.fetch change :: (fetch change).effects ++ (service.analyze text).effects ++
          .log (.issuesFound comments.length change.usualSlug) ::
            if comments = [] then [] else .post change comments :: (notify change comments).effects,
        if comments = [] then .ok []
        else (notify change comments).outcome.map fun _ => comments⟩ := by
  cases comments with
  | nil =>
      simp [handle, notifier_eq, fetcher_eq, bind, Action.andThen, fetched, analyzed, Action.log,
        Change.slug_of_isNamed named, Action.ofDigits]
  | cons first rest =>
      cases posted : (notify change (first :: rest)).outcome <;>
        simp [handle, notifier_eq, fetcher_eq, bind, Action.andThen, fetched, analyzed, Action.log,
          Change.slug_of_isNamed named, Action.ofDigits, posted, Except.map]

end Handling

theorem handles (service : Service) (change : Change) :
    service.Handles change (service.handle change).effects (service.handle change).outcome := by
  cases notifier_eq : service.notifier with
  | none =>
      rw [handle, notifier_eq]
      exact .withoutNotifier notifier_eq
  | some notify =>
      cases fetcher_eq : service.fetcher with
      | none =>
          rw [handle, notifier_eq, fetcher_eq]
          exact .withoutFetcher notifier_eq fetcher_eq
      | some fetch =>
          cases fetched : (fetch change).outcome with
          | error failure =>
              rw [handle_of_unfetched notifier_eq fetcher_eq fetched]
              exact .unfetched notifier_eq fetcher_eq fetched
          | ok text =>
              have analyzes := service.analyzes text
              cases analyzed : (service.analyze text).outcome with
              | error failure =>
                  rw [analyzed] at analyzes
                  rw [handle_of_unreviewed notifier_eq fetcher_eq fetched analyzed]
                  exact .unreviewed notifier_eq fetcher_eq fetched analyzes
              | ok comments =>
                  rw [analyzed] at analyzes
                  by_cases named : change.IsNamed
                  · rw [handle_of_analyzed notifier_eq fetcher_eq fetched analyzed named]
                    by_cases found : comments = []
                    · subst found
                      exact .nothingFound notifier_eq fetcher_eq fetched analyzes named
                    · rw [if_neg found, if_neg found]
                      exact .posted notifier_eq fetcher_eq fetched analyzes named found
                  · rw [handle_of_unnamed notifier_eq fetcher_eq fetched analyzed named]
                    exact .unnamed notifier_eq fetcher_eq fetched analyzes named

end Service

end DiffReview
