import DiffReview.Clone
import DiffReview.GitHub.Client
import DiffReview.Limits
import DiffReview.Record
import DiffReview.Summary

/-!
# Settings

Settings are given by name, or else taken from the environment.  Some settings have a second name in
capital letters, which is then their official one.  A fault is reported at the name that was used
if that is one of a setting's names; in any other mixture of small and capital letters a name does
as well, and a fault is then reported at the official one.
-/

namespace DiffReview

open Number (Binary64)

/-- Who runs the chat model. -/
inductive Provider
  | openAI
  | azure
deriving DecidableEq, Repr

namespace Provider

/-- The word for a provider. -/
def name : Provider → String
  | openAI => "openai"
  | azure => "azure-openai"

/-- The provider that a field names. -/
def ofJson (value : Json) : Except FieldFault Provider :=
  match value.text? with
  | some "openai" => .ok openAI
  | some "azure-openai" => .ok azure
  | _ => .error .literal

end Provider

/-- Where settings come from. -/
structure SettingSource where
  /-- The settings that are given by name. -/
  given : Record.Members := []
  /-- The variables of the environment. -/
  environment : List (String × String) := []

namespace SettingSource

/-- The second name of a setting. -/
def capitalName (name : String) : String :=
  name.toUpper

/-- The variable of some name, disregarding case; of several the last. -/
def environmentValue? (source : SettingSource) (name : String) : Option String :=
  (source.environment.reverse.find? fun (other, _) => Text.lower other.toList == name.toList).map
    Prod.snd

/-- The value given by some name, disregarding case; of several the last. -/
def givenInAnyCase? (source : SettingSource) (name : String) : Option Json :=
  let isNamed (points : List Text.CodePoint) : Bool :=
    (Text.soundText? points).any fun other => Text.lower other == name.toList
  (source.given.reverse.find? fun (other, _) => isNamed other).map Prod.snd

/-- The value of a setting that has a second name or has not, with the name it was found under. -/
def find? (source : SettingSource) (hasCapitalName : Bool) (name : String) :
    Option (String × Json) :=
  let official := if hasCapitalName then capitalName name else name
  let given (name : String) := (Json.member? name source.given).map fun value => (name, value)
  let elsewhere := (source.givenInAnyCase? name).or ((source.environmentValue? name).map .string)
  ((given official).or (given name)).or (elsewhere.map fun value => (official, value))

/-- A setting without a second name. -/
def plain {α : Type} (source : SettingSource) (check : Json → Except FieldFault α) (otherwise : α)
    (name : String) : Checked α :=
  (source.find? false name).elim (.accepted otherwise) fun (place, value) =>
    .ofField place (check value)

/-- A setting with a second name. -/
def named {α : Type} (source : SettingSource) (check : Json → Except FieldFault α) (otherwise : α)
    (name : String) : Checked α :=
  (source.find? true name).elim (.accepted otherwise) fun (place, value) =>
    .ofField place (check value)

/-- A text with a second name that may be null or missing. -/
def namedText? (source : SettingSource) (name : String) : Checked (Option String) :=
  source.named (Record.orNull Field.text) none name

end SettingSource

/-- What can be set. -/
structure Settings where
  /-- Who runs the chat model. -/
  provider : Provider := .openAI
  /-- The key to the model. -/
  openAIKey : Option String := none
  /-- Which model is asked. -/
  openAIModel : String := "gpt-4o-mini"
  /-- Where the model is asked. -/
  openAIAddress : Option String := none
  /-- How freely the model answers. -/
  temperature : Binary64 := 0.2
  /-- How long an answer may be; zero for no limit. -/
  maxOutputTokens : Int := 2048
  /-- The key to the model at the other provider. -/
  azureKey : Option String := none
  /-- Where the model at the other provider is asked. -/
  azureEndpoint : Option String := none
  /-- Under which name the model is known there. -/
  azureDeployment : Option String := none
  /-- The version of the interface there. -/
  azureVersion : String := "2024-06-01"
  /-- What proves access to the hosting platform. -/
  gitHubToken : Option String := none
  /-- The secret shared with the hosting platform. -/
  webhookSecret : Option String := none
  /-- Where requests to the hosting platform go. -/
  gitHubAddress : String := GitHub.defaultAddress
  /-- How many seconds a request to the hosting platform may take. -/
  gitHubTimeout : Binary64 := 10
  /-- How many comments are posted. -/
  maxReviewComments : Int := GitHub.defaultMaxComments
  /-- Where a local clone is. -/
  repositoryPath : Option String := none
  /-- Whether rules are applied. -/
  usesRules : Bool := true
  /-- Whether limits are checked. -/
  usesLimits : Bool := true
  /-- Whether a chat model is asked. -/
  usesModel : Bool := true
  /-- How many seconds a layer may take. -/
  layerTimeout : Binary64 := 60
  /-- The limits. -/
  limits : Limits := {}
  /-- How much of a diff the model is shown. -/
  summary : SummaryOptions := {}
  /-- How many seconds the model may take. -/
  modelTimeout : Binary64 := 30
  /-- What is logged. -/
  logLevel : String := "INFO"
  /-- How wide the console is. -/
  consoleWidth : Option Int := none

namespace Settings

open DiffReview.Field

/-- Reads the limits. -/
def readLimits (source : SettingSource) : Checked Limits :=
  let usual : Limits := {}
  Limits.mk <$> source.plain (integerFrom 1) usual.functionLines "max_function_lines"
    <*> source.plain (integerFrom 1) usual.fileChurn "max_file_churn"
    <*> source.plain (integerFrom 0) usual.nestingDepth "max_nesting_depth"
    <*> source.plain (integerFrom 1) usual.totalAdditions "max_total_additions"

/-- Reads how much of a diff the model is shown. -/
def readSummary (source : SettingSource) : Checked SummaryOptions :=
  let usual : SummaryOptions := {}
  SummaryOptions.mk <$> source.plain (integerFrom 0) usual.contextLines "ai_context_lines"
    <*> source.plain (integerFrom 1) usual.maxLines "ai_max_summary_lines"

/-- A check of a path. -/
def path : Json → Except FieldFault String
  | .text points => (text (.text points)).map Clone.normalPath
  | _ => .error .pathType

/-- Reads the settings. -/
def read (source : SettingSource) : Checked Settings :=
  let usual : Settings := {}
  mk <$> source.named Provider.ofJson usual.provider "llm_provider"
    <*> source.namedText? "openai_api_key"
    <*> source.named text usual.openAIModel "openai_model"
    <*> source.namedText? "openai_base_url"
    <*> source.plain real usual.temperature "openai_temperature"
    <*> source.named integer usual.maxOutputTokens "max_output_tokens"
    <*> source.namedText? "azure_openai_api_key"
    <*> source.namedText? "azure_openai_endpoint"
    <*> source.namedText? "azure_openai_deployment"
    <*> source.named text usual.azureVersion "azure_openai_api_version"
    <*> source.namedText? "github_token"
    <*> source.namedText? "github_webhook_secret"
    <*> source.named text usual.gitHubAddress "github_api_url"
    <*> source.plain real usual.gitHubTimeout "github_timeout_seconds"
    <*> source.plain (integerFrom 1) usual.maxReviewComments "max_review_comments"
    <*> source.plain (Record.orNull path) none "repo_path"
    <*> source.plain truth usual.usesRules "enable_pattern_layer"
    <*> source.plain truth usual.usesLimits "enable_heuristic_layer"
    <*> source.plain truth usual.usesModel "enable_ai_layer"
    <*> source.plain positive usual.layerTimeout "layer_timeout_seconds"
    <*> readLimits source
    <*> readSummary source
    <*> source.plain positive usual.modelTimeout "ai_timeout_seconds"
    <*> source.named text usual.logLevel "log_level"
    <*> source.plain (Record.orNull integer) none "console_width"

/-- What the other provider needs, by the names under which it is set. -/
def azureNeeds (settings : Settings) : List (String × Option String) :=
  [("AZURE_OPENAI_API_KEY", settings.azureKey), ("AZURE_OPENAI_ENDPOINT", settings.azureEndpoint),
    ("AZURE_OPENAI_DEPLOYMENT", settings.azureDeployment)]

/-- The names of what the other provider needs and is not set. -/
def azureMissing (settings : Settings) : List String :=
  (settings.azureNeeds.filter fun (_, value) => (Text.present? value).isNone).map Prod.fst

/-- Whether all is set that is needed to ask the model. -/
def hasCredentials (settings : Settings) : Bool :=
  match settings.provider with
  | .openAI => (Text.present? settings.openAIKey).isSome
  | .azure => settings.azureMissing.isEmpty

end Settings

end DiffReview
