import PromptDiagram.Chat.Types
import PromptDiagram.Settings.Server

/-!
# Settings of the chat model

Which provider and model to ask, with which key, and within which limits. The key is read from a
variable that another variable may name. Numbers that cannot be read fall back to their defaults,
but a temperature that cannot be used is an error, and so is a missing key, which is noticed first.
-/

namespace PromptDiagram.Settings

open Chat Numeric Text

/-- The settings of the chat model. -/
structure Model where
  apiKey : String
  model : String
  baseUrl : String
  temperature : Floating
  maxTokens : Nat
  requestSeconds : Nat
  connectSeconds : Nat
  deriving DecidableEq

/-- The variable that holds the key where no other is named. -/
def standardKeyVariable : String := "GROQ_API_KEY"

/-- The model where none is set. -/
def standardModel : String := "llama-3.3-70b-versatile"

/-- The provider's address where none is set. -/
def standardBaseUrl : String := "https://api.groq.com/openai/v1"

/-- The seconds that a request may take where no limit is set. -/
def standardRequestSeconds : Nat := 30

/-- The seconds that connecting may take where no limit is set. -/
def standardConnectSeconds : Nat := 10

/-- The greatest limit on tokens: it has 32 bits. -/
def greatestMaxTokens : Nat := 4294967295

/-- The greatest limit on seconds: it has 64 bits. -/
def greatestSeconds : Nat := 18446744073709551615

/-- The greatest temperature. -/
def greatestTemperature : Nat := 2

/-- The variable that holds the key. -/
def keyVariable (settings : Variables) : String :=
  (settings "LLM_API_KEY_ENV").getD standardKeyVariable

/-- The key, without blanks around it and with something left. -/
def apiKeyOf? (settings : Variables) : Option String :=
  ((settings (keyVariable settings)).map trimmed).filter fun key => !key.isEmpty

/-- The model that is set, unless it is blank. -/
def modelOf (settings : Variables) : String :=
  ((settings "LLM_MODEL").filter fun model => !isBlankString model).getD standardModel

/-- The provider's address, without slashes at its end. -/
def baseUrlOf (settings : Variables) : String :=
  dropAtEnd '/' ((settings "LLM_BASE_URL").getD standardBaseUrl)

/-- The temperature that is set. -/
def temperatureOf (settings : Variables) : Except Failure Floating :=
  match settings "LLM_TEMPERATURE" with
  | none => .ok standardTemperature
  | some text =>
    match floating? .single (trim text.toList) with
    | none => .error (.invalidSetting ("invalid LLM_TEMPERATURE: " ++ text))
    | some value =>
      if value.isWithin greatestTemperature then .ok value
      else .error (.invalidSetting ("LLM_TEMPERATURE out of range (0.0..=2.0): " ++ text))

/-- The settings that variables hold. -/
def Model.ofVariables (settings : Variables) : Except Failure Model :=
  match apiKeyOf? settings with
  | none => .error (.missingKey (keyVariable settings))
  | some apiKey => do
    let temperature ← temperatureOf settings
    return {
      apiKey
      model := modelOf settings
      baseUrl := baseUrlOf settings
      temperature
      maxTokens := naturalOr settings "LLM_MAX_TOKENS" greatestMaxTokens standardMaxTokens
      requestSeconds :=
        naturalOr settings "LLM_REQUEST_TIMEOUT_SECS" greatestSeconds standardRequestSeconds
      connectSeconds :=
        naturalOr settings "LLM_CONNECT_TIMEOUT_SECS" greatestSeconds standardConnectSeconds }

/-- The options that extraction asks with under some settings. -/
def Model.options (settings : Model) : Options where
  maxTokens := settings.maxTokens
  temperature := settings.temperature
  jsonMode := true

end PromptDiagram.Settings
