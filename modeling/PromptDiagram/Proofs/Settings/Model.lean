import PromptDiagram.Chat.Client
import PromptDiagram.Proofs.Json.Values
import PromptDiagram.Proofs.Numeric.Bounds
import PromptDiagram.Proofs.Text.Runs

/-!
# Settings of the chat model that load

Settings load unless there is no key or the temperature cannot be used, and the key is looked at
first. What has loaded can be used as it is: the key has no blanks around it, the model has a name,
the temperature is a number within its range, and the provider's address does not end in a slash, so
that it makes no difference how many slashes it was set with.
-/

namespace PromptDiagram.Settings

open Chat Numeric Text

/-- Whether settings are those that variables hold. -/
structure Model.IsHeldBy (model : Model) (settings : Variables) : Prop where
  apiKey : apiKeyOf? settings = some model.apiKey
  temperature : temperatureOf settings = .ok model.temperature
  name : model.model = modelOf settings
  address : model.baseUrl = baseUrlOf settings
  maxTokens : model.maxTokens =
    naturalOr settings "LLM_MAX_TOKENS" greatestMaxTokens standardMaxTokens
  requestSeconds : model.requestSeconds =
    naturalOr settings "LLM_REQUEST_TIMEOUT_SECS" greatestSeconds standardRequestSeconds
  connectSeconds : model.connectSeconds =
    naturalOr settings "LLM_CONNECT_TIMEOUT_SECS" greatestSeconds standardConnectSeconds

/-- Settings that load are those that the variables hold. -/
theorem Model.isHeldBy_of_loaded {settings : Variables} {model : Model}
    (loaded : ofVariables settings = .ok model) : model.IsHeldBy settings := by
  unfold ofVariables at loaded
  split at loaded
  case h_1 keyless => cases loaded
  case h_2 apiKey key =>
    cases warmth : temperatureOf settings with
    | error failure =>
      rw [warmth] at loaded
      cases loaded
    | ok temperature =>
      rw [warmth] at loaded
      cases loaded
      exact ⟨key, warmth, rfl, rfl, rfl, rfl, rfl⟩

/-- Settings that do not load lack a key, or else have a temperature that cannot be used. -/
theorem Model.ofVariables_eq_error_iff {settings : Variables} {failure : Failure} :
    ofVariables settings = .error failure ↔
      (apiKeyOf? settings = none ∧ failure = .missingKey (keyVariable settings)) ∨
      ((apiKeyOf? settings).isSome ∧ temperatureOf settings = .error failure) := by
  unfold ofVariables
  cases key : apiKeyOf? settings with
  | none =>
    simp only [Except.error.injEq, true_and, Option.isSome_none, Bool.false_eq_true, false_and,
      or_false]
    exact eq_comm
  | some apiKey =>
    cases temperatureOf settings with
    | error other => simp [bind, Except.bind]
    | ok temperature => simp [bind, Except.bind, pure, Except.pure]

/-! ## The key -/

/-- There is a key exactly if its variable is set to a text that is not blank, and then it is that
text without the blanks around it. -/
theorem apiKeyOf?_eq_some_iff {settings : Variables} {apiKey : String} :
    apiKeyOf? settings = some apiKey ↔ ∃ raw, settings (keyVariable settings) = some raw ∧
      isBlankString raw = false ∧ trimmed raw = apiKey := by
  have empty (raw : String) : (trimmed raw).isEmpty = isBlankString raw := by
    rw [Bool.eq_iff_iff, isBlankString, ← trim_eq_nil_iff, trimmed, String.isEmpty_iff]
    simp
  rw [apiKeyOf?, Option.filter_eq_some_iff, Option.map_eq_some_iff]
  constructor
  · rintro ⟨⟨raw, isSet, rfl⟩, kept⟩
    rw [empty] at kept
    exact ⟨raw, isSet, by simpa using kept, rfl⟩
  · rintro ⟨raw, isSet, visible, rfl⟩
    refine ⟨⟨raw, isSet, rfl⟩, ?_⟩
    rw [empty, visible]
    rfl

/-- There is no key exactly if its variable is unset or blank. -/
theorem apiKeyOf?_eq_none_iff {settings : Variables} :
    apiKeyOf? settings = none ↔
      ∀ raw, settings (keyVariable settings) = some raw → isBlankString raw = true := by
  rw [Option.eq_none_iff_forall_ne_some]
  constructor
  · intro keyless raw isSet
    by_contra visible
    exact keyless _ (apiKeyOf?_eq_some_iff.mpr ⟨raw, isSet, by simpa using visible, rfl⟩)
  · intro blank apiKey key
    obtain ⟨raw, isSet, visible, -⟩ := apiKeyOf?_eq_some_iff.mp key
    rw [blank raw isSet] at visible
    cases visible

/-! ## The model and the address -/

/-- The model has a name that is not blank, whether it is set or not. -/
theorem isBlankString_modelOf (settings : Variables) :
    isBlankString (modelOf settings) = false := by
  unfold modelOf
  cases kept : (settings "LLM_MODEL").filter fun model => !isBlankString model with
  | none => decide
  | some model => simpa using (Option.filter_eq_some_iff.mp kept).2

/-- A text whose end a character was dropped from does not end in this character. -/
theorem getLast?_dropAtEnd_ne (c : Char) (text : String) :
    (dropAtEnd c text).toList.getLast? ≠ some c := by
  intro ends
  rw [dropAtEnd, String.toList_ofList] at ends
  obtain ⟨nonempty, last⟩ := List.mem_getLast?_eq_getLast ends
  exact List.rdropWhile_last_not (· == c) text.toList nonempty (beq_iff_eq.mpr last.symm)

/-- Dropping a character at the end once more makes no difference. -/
theorem dropAtEnd_dropAtEnd (c : Char) (text : String) :
    dropAtEnd c (dropAtEnd c text) = dropAtEnd c text := by
  have again := List.rdropWhile_idempotent (· == c) text.toList
  simp only [dropAtEnd, String.toList_ofList]
  exact congrArg String.ofList again

/-- Dropping a character at the end drops it as often as it stands there. -/
theorem dropAtEnd_append_replicate (c : Char) (text : String) (n : Nat) :
    dropAtEnd c (text ++ String.ofList (List.replicate n c)) = dropAtEnd c text := by
  have all (d : Char) (mem : d ∈ List.replicate n c) : (d == c) = true := by
    simpa using List.eq_of_mem_replicate mem
  simp only [dropAtEnd, String.toList_append, String.toList_ofList, List.reverse_append,
    List.reverse_replicate, List.dropWhile_append_of_pos all]

/-! ## The temperature -/

/-- A temperature that can be used is within its range. -/
theorem isWithin_of_temperatureOf {settings : Variables} {temperature : Floating}
    (usable : temperatureOf settings = .ok temperature) : temperature.isWithin 2 = true := by
  unfold temperatureOf at usable
  split at usable
  · cases usable
    decide +kernel
  · split at usable
    · cases usable
    · split at usable
      case isTrue within =>
        cases usable
        exact within
      case isFalse => cases usable

/-- A temperature that cannot be used is set, and the failure tells how. -/
theorem exists_of_temperatureOf_eq_error {settings : Variables} {failure : Failure}
    (unusable : temperatureOf settings = .error failure) :
    ∃ text, settings "LLM_TEMPERATURE" = some text ∧
      (failure = .invalidSetting ("invalid LLM_TEMPERATURE: " ++ text) ∨
        failure = .invalidSetting ("LLM_TEMPERATURE out of range (0.0..=2.0): " ++ text)) := by
  unfold temperatureOf at unusable
  split at unusable
  · cases unusable
  case h_2 text isSet =>
    refine ⟨text, isSet, ?_⟩
    split at unusable
    · cases unusable
      exact .inl rfl
    · split at unusable
      · cases unusable
      · cases unusable
        exact .inr rfl

/-! ## All settings -/

/-- What loaded settings can be relied on for. -/
structure Model.IsSound (model : Model) (settings : Variables) : Prop where
  /-- The key is what its variable holds, without the blanks around it. -/
  key : ∃ raw, settings ((settings "LLM_API_KEY_ENV").getD "GROQ_API_KEY") = some raw ∧
    model.apiKey = trimmed raw
  keySome : model.apiKey ≠ ""
  keyTrimmed : IsTrimmed model.apiKey.toList
  name : ∃ c ∈ model.model.toList, isBlank c = false
  address : model.baseUrl.toList.getLast? ≠ some '/'
  temperature : ∃ number, model.temperature.rational? = some number ∧ 0 ≤ number ∧ number ≤ 2
  endpoint : (Client.ofSettings model).endpoint = model.baseUrl ++ "/chat/completions"

/-- Settings that load can be relied on. -/
theorem Model.isSound_of_loaded {settings : Variables} {model : Model}
    (loaded : ofVariables settings = .ok model) : model.IsSound settings := by
  have held := isHeldBy_of_loaded loaded
  obtain ⟨raw, isSet, visible, key⟩ := apiKeyOf?_eq_some_iff.mp held.apiKey
  have chars : model.apiKey.toList = trim raw.toList := by
    rw [← key, trimmed, String.toList_ofList]
  refine ⟨⟨raw, isSet, key.symm⟩, ?keySome, ?keyTrimmed, ?name, ?address, ?temperature, ?endpoint⟩
  case keySome =>
    intro empty
    rw [empty] at chars
    rw [isBlankString, trim_eq_nil_iff.mp chars.symm] at visible
    cases visible
  case keyTrimmed =>
    rw [chars]
    exact isTrimmed_trim raw.toList
  case name =>
    have visible := isBlankString_modelOf settings
    rw [← held.name] at visible
    simpa [isBlankString, isBlankText] using visible
  case address =>
    rw [held.address]
    exact getLast?_dropAtEnd_ne '/' _
  case temperature =>
    exact Floating.isWithin_iff.mp (isWithin_of_temperatureOf held.temperature)
  case endpoint =>
    rw [Client.ofSettings, held.address, baseUrlOf, dropAtEnd_dropAtEnd]

/-- What is set in one variable makes no difference to the key, unless it is the key's variable or
names it. -/
theorem apiKeyOf?_congr {settings settings' : Variables} {changed : String}
    (same : ∀ name, name ≠ changed → settings' name = settings name)
    (names : "LLM_API_KEY_ENV" ≠ changed) (other : keyVariable settings ≠ changed) :
    keyVariable settings' = keyVariable settings ∧ apiKeyOf? settings' = apiKeyOf? settings := by
  have sameVariable : keyVariable settings' = keyVariable settings := by
    rw [keyVariable, keyVariable, same _ names]
  exact ⟨sameVariable, by rw [apiKeyOf?, apiKeyOf?, sameVariable, same _ other]⟩

/-- Variables that differ in the address only, and have the same one without the slashes at its end,
hold the same settings, unless it is the key. -/
theorem Model.ofVariables_congr {settings settings' : Variables}
    (same : ∀ name, name ≠ "LLM_BASE_URL" → settings' name = settings name)
    (other : keyVariable settings ≠ "LLM_BASE_URL")
    (address : baseUrlOf settings' = baseUrlOf settings) :
    ofVariables settings' = ofVariables settings := by
  obtain ⟨sameVariable, key⟩ := apiKeyOf?_congr same (by decide) other
  have temperature : temperatureOf settings' = temperatureOf settings := by
    rw [temperatureOf, temperatureOf, same _ (by decide)]
  have model : modelOf settings' = modelOf settings := by
    rw [modelOf, modelOf, same _ (by decide)]
  have number (name : String) (differs : name ≠ "LLM_BASE_URL") (greatest standard : Nat) :
      naturalOr settings' name greatest standard = naturalOr settings name greatest standard := by
    rw [naturalOr, naturalOr, same name differs]
  rw [ofVariables, ofVariables, sameVariable, key, temperature, model, address,
    number _ (by decide), number _ (by decide), number _ (by decide)]

/-- Settings that load have a key without blanks around it, a model with a name, a temperature
within its range and an address without slashes at its end, to which the endpoint adds its path.
They fail for want of a key exactly if the key's variable is unset or blank, whatever else is set.
How many slashes an address is set with makes no difference to them, unless they are part of the
key. -/
theorem Model.ofVariables_sound (settings : Variables) :
    let keyName := (settings "LLM_API_KEY_ENV").getD "GROQ_API_KEY"
    (∀ model, ofVariables settings = .ok model → model.IsSound settings) ∧
    (∀ name, ofVariables settings = .error (.missingKey name) ↔
      name = keyName ∧ ∀ raw, settings keyName = some raw → isBlankString raw = true) ∧
    (∀ (settings' : Variables) (address : String) (n m : Nat), keyName ≠ "LLM_BASE_URL" →
      (∀ name, name ≠ "LLM_BASE_URL" → settings' name = settings name) →
      settings "LLM_BASE_URL" = some (address ++ String.ofList (List.replicate n '/')) →
      settings' "LLM_BASE_URL" = some (address ++ String.ofList (List.replicate m '/')) →
      ofVariables settings' = ofVariables settings ∧
      (ofVariables settings').map Client.ofSettings =
        (ofVariables settings).map Client.ofSettings) := by
  intro keyName
  refine ⟨fun model loaded => isSound_of_loaded loaded, fun name => ?missing, ?slashes⟩
  case missing =>
    rw [ofVariables_eq_error_iff]
    constructor
    · rintro (⟨keyless, named⟩ | ⟨-, unusable⟩)
      · exact ⟨Failure.missingKey.inj named, apiKeyOf?_eq_none_iff.mp keyless⟩
      · obtain ⟨text, -, told | told⟩ := exists_of_temperatureOf_eq_error unusable <;> cases told
    · rintro ⟨rfl, blank⟩
      exact .inl ⟨apiKeyOf?_eq_none_iff.mpr blank, rfl⟩
  case slashes =>
    intro settings' address n m other same isSet set'
    have read : baseUrlOf settings' = baseUrlOf settings := by
      rw [baseUrlOf, baseUrlOf, isSet, set', Option.getD_some, Option.getD_some,
        dropAtEnd_append_replicate, dropAtEnd_append_replicate]
    have loads := ofVariables_congr same other read
    exact ⟨loads, congrArg (Except.map Client.ofSettings) loads⟩

/-- The variables of a list. -/
def listed (entries : List (String × String)) : Variables := fun name => entries.lookup name

/-- A key with blanks around it, a blank model, the greatest temperature and an address with some
slashes. -/
def paddedVariables (slashes : Nat) : Variables := listed [
  ("LLM_API_KEY_ENV", "KEY"), ("KEY", " k\n"), ("LLM_MODEL", "\t"), ("LLM_TEMPERATURE", " +2.0"),
  ("LLM_BASE_URL", "http://localhost" ++ String.ofList (List.replicate slashes '/'))]

/-- The settings of the padded variables. -/
def paddedModel : Model where
  apiKey := "k"
  model := "llama-3.3-70b-versatile"
  baseUrl := "http://localhost"
  temperature := .finite false 8388608 (-22)
  maxTokens := 4096
  requestSeconds := 30
  connectSeconds := 10

/-- The padded variables load, with two slashes as without any, and a key that is blank is
missing. -/
theorem Model.ofVariables_sound_padded :
    ofVariables (paddedVariables 2) = .ok paddedModel ∧ paddedModel.IsSound (paddedVariables 2) ∧
    ofVariables (paddedVariables 0) = ofVariables (paddedVariables 2) ∧
    ofVariables (listed [("GROQ_API_KEY", "\u00a0 ")]) = .error (.missingKey "GROQ_API_KEY") := by
  have loaded : ofVariables (paddedVariables 2) = .ok paddedModel :=
    Json.toOption_eq_some_iff.mp (by decide +kernel)
  obtain ⟨sound, -, slashes⟩ := ofVariables_sound (paddedVariables 2)
  obtain ⟨-, missing, -⟩ := ofVariables_sound (listed [("GROQ_API_KEY", "\u00a0 ")])
  have same (name : String) (other : name ≠ "LLM_BASE_URL") :
      paddedVariables 0 name = paddedVariables 2 name := by
    simp [paddedVariables, listed, Dictionary.lookup_cons_eq_ite, other]
  refine ⟨loaded, sound paddedModel loaded, ?_, (missing "GROQ_API_KEY").mpr ⟨rfl, ?_⟩⟩
  · exact (slashes (paddedVariables 0) "http://localhost" 2 0 (by decide) same rfl rfl).1
  · rintro raw isSet
    obtain rfl : "\u00a0 " = raw := Option.some.inj isSet
    decide

end PromptDiagram.Settings
