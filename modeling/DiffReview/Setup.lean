import DiffReview.ModelReviewer
import DiffReview.Service
import DiffReview.Settings

/-!
# Setting up the service

Settings decide which layers there are, which model is asked, and how diffs are fetched and comments
posted.  What is set up is first described by plain data and then connected to the world.
-/

namespace DiffReview

/-- A chat model and how it is to be asked. -/
inductive ModelPlan
  /-- A model known by its name. -/
  | openAI (model : String) (temperature : Quantity) (maxTokens : Option Int)
      (key address : Option String)
  /-- A model known by its deployment. -/
  | azure (deployment endpoint version key : String) (temperature : Quantity)
      (maxTokens : Option Int)

namespace ModelPlan

/-- A limit on the length of answers; zero is none. -/
def tokenLimit (limit : Int) : Option Int :=
  if limit = 0 then none else some limit

/-- The model that is asked where the settings do not matter. -/
def standard (model : String) (temperature : Quantity) (maxOutputTokens : Int) : ModelPlan :=
  openAI model temperature (tokenLimit maxOutputTokens) none none

/-- The failure for lack of what the other provider needs. -/
def azureIncomplete (missing : List String) : Failure :=
  .unacceptable
    ("Missing Azure OpenAI configuration. Please set: " ++ ", ".intercalate missing)

/-- The model that the settings describe. -/
def ofSettings (settings : Settings) : Except Failure ModelPlan :=
  let temperature := Quantity.fractional settings.temperature
  let limit := tokenLimit settings.maxOutputTokens
  match settings.provider with
  | .openAI =>
    .ok (openAI settings.openAIModel temperature limit (Text.present? settings.openAIKey)
      (Text.present? settings.openAIAddress))
  | .azure =>
    if settings.azureMissing.isEmpty then
      .ok (azure (settings.azureDeployment.getD "") (settings.azureEndpoint.getD "")
        settings.azureVersion (settings.azureKey.getD "") temperature limit)
    else
      .error (azureIncomplete settings.azureMissing)

end ModelPlan

/-- A layer as it is to be set up. -/
inductive LayerPlan
  /-- The usual rules are applied. -/
  | rules
  /-- Limits are checked. -/
  | limits (limits : Limits)
  /-- A model is asked. -/
  | model (plan : ModelPlan) (timeout : Quantity) (options : SummaryOptions)

namespace LayerPlan

/-- What is logged when the layer is set up. -/
def events : LayerPlan → List Event
  | model .. => [.jsonModeEnabled]
  | _ => []

/-- The layer on a machine on which models answer and time passes as given, and replies are read up
to the given nesting. -/
def layer (answer : ModelPlan → Question → ModelAnswer) (pace : Pace) (nesting : Nat) :
    LayerPlan → Layer
  | rules => .ofRules Rule.defaults
  | limits bounds => .ofLimits bounds
  | model plan timeout options =>
    .ofModel { model := answer plan, timeout := pace.duration timeout, nesting, options }

/-- The layer that asks a model, where one is wanted and can be asked. -/
def modelLayers (settings : Settings) : Action (List LayerPlan) := do
  if !settings.usesModel then
    return []
  if settings.hasCredentials then
    match ModelPlan.ofSettings settings with
    | .error failure => Action.fail failure
    | .ok plan => return [model plan (.fractional settings.modelTimeout) settings.summary]
  else
    Action.log .credentialsMissing
    return []

/-- The layers that the settings describe. -/
def ofSettings (settings : Settings) : Action (List LayerPlan) := do
  let modelLayers ← modelLayers settings
  let layers :=
    (if settings.usesRules then [rules] else []) ++
      (if settings.usesLimits then [limits settings.limits] else []) ++ modelLayers
  (layers.flatMap events).forM Action.log
  return layers

end LayerPlan

/-- How diffs are to be fetched. -/
inductive FetcherPlan
  /-- From the hosting platform. -/
  | platform (token address : String)
  /-- From a local clone. -/
  | clone (clone : Clone)

namespace FetcherPlan

/-- How the settings say that diffs are fetched, given what is found at paths. -/
def ofSettings (look : String → Place) (settings : Settings) : Action (Option FetcherPlan) :=
  match Text.present? settings.gitHubToken, settings.repositoryPath with
  | some token, _ =>
    return some (platform token (GitHub.Client.dropFinalSlashes settings.gitHubAddress))
  | none, none => return none
  | none, some path =>
    match Clone.atPath look path Clone.usualBase with
    | .ok found => return some (clone found)
    | .error error => do
      Action.log (.localDiffDisabled error.message)
      return none

/-- The way to fetch diffs. -/
def fetcher (transport : Transport) : FetcherPlan → Fetcher
  | platform token address => GitHub.Client.fetch { token, address, transport }
  | clone found => found.fetch

end FetcherPlan

/-- How comments are to be posted. -/
structure NotifierPlan where
  /-- What proves access to the hosting platform. -/
  token : String
  /-- Where requests go. -/
  address : String
  /-- How many comments are posted. -/
  maxComments : Int
deriving DecidableEq, Repr

namespace NotifierPlan

/-- How the settings say that comments are posted. -/
def ofSettings (settings : Settings) : Option NotifierPlan :=
  (Text.present? settings.gitHubToken).map fun token =>
    { token
      address := GitHub.Client.dropFinalSlashes settings.gitHubAddress
      maxComments := settings.maxReviewComments }

/-- The way to post comments. -/
def notifier (transport : Transport) (plan : NotifierPlan) : Notifier :=
  GitHub.Client.post { token := plan.token, address := plan.address, transport } plan.maxComments

end NotifierPlan

/-- A service as it is to be set up. -/
structure ServicePlan where
  /-- The layers. -/
  layers : List LayerPlan
  /-- How diffs are fetched, if they can be. -/
  fetcher : Option FetcherPlan
  /-- How comments are posted, if they can be. -/
  notifier : Option NotifierPlan
  /-- How many seconds a layer may take. -/
  limit : Quantity

namespace ServicePlan

/-- The service that the settings describe, given what is found at paths. -/
def ofSettings (look : String → Place) (settings : Settings) : Action ServicePlan := do
  return {
    layers := ← LayerPlan.ofSettings settings
    fetcher := ← FetcherPlan.ofSettings look settings
    notifier := NotifierPlan.ofSettings settings
    limit := .fractional settings.layerTimeout }

/-- The service, given how models answer and how requests are sent, how time passes, and up to which
nesting replies are read. -/
def service (answer : ModelPlan → Question → ModelAnswer) (transport : Transport) (pace : Pace)
    (nesting : Nat) (plan : ServicePlan) : Service where
  layers := plan.layers.map (LayerPlan.layer answer pace nesting)
  fetcher := plan.fetcher.map (FetcherPlan.fetcher transport)
  notifier := plan.notifier.map (NotifierPlan.notifier transport)
  limit := some (pace.duration plan.limit)

end ServicePlan

end DiffReview
