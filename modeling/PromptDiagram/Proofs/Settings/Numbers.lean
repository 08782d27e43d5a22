import PromptDiagram.Proofs.Numeric.Naturals
import PromptDiagram.Proofs.Settings.Model
import PromptDiagram.Settings.Server

/-!
# Numbers among the settings

The port and the three limits of the chat model are written alike, each within a range of its own.
They differ in what becomes of a text that writes no number of the range: a port that cannot be read
is an error which tells the text as it was set, and a limit that cannot be read is the same as one
that is not set.
-/

namespace PromptDiagram.Settings

open Chat Numeric Text

/-- Whether a text writes a number within a range, between any blanks. -/
def Writes (greatest n : Nat) (text : String) : Prop :=
  SpellsNatural n (trim text.toList) ∧ n ≤ greatest

/-- A number among the settings of the chat model. -/
structure Limit where
  name : String
  greatest : Nat
  standard : Nat
  place : Model → Nat

/-- The numbers among the settings of the chat model. -/
def limits : List Limit := [
  ⟨"LLM_MAX_TOKENS", 2 ^ 32 - 1, 4096, Model.maxTokens⟩,
  ⟨"LLM_REQUEST_TIMEOUT_SECS", 2 ^ 64 - 1, 30, Model.requestSeconds⟩,
  ⟨"LLM_CONNECT_TIMEOUT_SECS", 2 ^ 64 - 1, 10, Model.connectSeconds⟩]

/-- A variable is read as the number that its text writes. -/
theorem natural?_eq_some_iff_writes {greatest n : Nat} {text : String} :
    natural? greatest text = some n ↔ Writes greatest n text :=
  natural?_eq_some_iff

/-- A variable that writes a number within the range has this number. -/
theorem naturalOr_of_writes {settings : Variables} {name text : String} {greatest n : Nat}
    (isSet : settings name = some text) (writes : Writes greatest n text) (standard : Nat) :
    naturalOr settings name greatest standard = n := by
  rw [naturalOr, isSet, Option.bind_some, natural?_eq_some_iff_writes.mpr writes]
  rfl

/-- A variable that writes no number within the range has the default. -/
theorem naturalOr_of_not_writes {settings : Variables} {name : String} {greatest : Nat}
    (unwritten : ∀ text, settings name = some text → ∀ n, ¬Writes greatest n text)
    (standard : Nat) : naturalOr settings name greatest standard = standard := by
  cases isSet : settings name with
  | none => simp [naturalOr, isSet]
  | some text =>
    have unread : natural? greatest text = none := by
      rw [Option.eq_none_iff_forall_ne_some]
      intro n read
      exact unwritten text isSet n (natural?_eq_some_iff_writes.mp read)
    simp [naturalOr, isSet, unread]

/-- Each limit is kept in its place. -/
theorem Model.IsHeldBy.place_eq {model : Model} {settings : Variables}
    (held : model.IsHeldBy settings) {limit : Limit} (listed : limit ∈ limits) :
    limit.place model = naturalOr settings limit.name limit.greatest limit.standard := by
  simp only [limits, List.mem_cons, List.not_mem_nil, or_false] at listed
  rcases listed with rfl | rfl | rfl
  · exact held.maxTokens
  · exact held.requestSeconds
  · exact held.connectSeconds

/-- What is set for a limit makes no difference to whether settings fail and how, unless it is the
key. -/
theorem Model.ofVariables_eq_error_congr {settings settings' : Variables} {limit : Limit}
    (listed : limit ∈ limits)
    (same : ∀ name, name ≠ limit.name → settings' name = settings name)
    (other : keyVariable settings ≠ limit.name) (failure : Failure) :
    ofVariables settings' = .error failure ↔ ofVariables settings = .error failure := by
  have apart : ∀ limit ∈ limits,
      "LLM_API_KEY_ENV" ≠ limit.name ∧ "LLM_TEMPERATURE" ≠ limit.name := by
    decide
  obtain ⟨sameVariable, key⟩ := apiKeyOf?_congr same (apart limit listed).1 other
  have temperature : temperatureOf settings' = temperatureOf settings := by
    rw [temperatureOf, temperatureOf, same _ (apart limit listed).2]
  rw [ofVariables_eq_error_iff, ofVariables_eq_error_iff, sameVariable, key, temperature]

/-! ## The port -/

/-- The settings of the server load with the port that is set, if it is written within the range. -/
theorem Server.ofVariables_of_writes {settings : Variables} {text : String} {port : Nat}
    (isSet : settings "PORT" = some text) (writes : Writes (2 ^ 16 - 1) port text) :
    ofVariables settings = .ok ⟨port, originsIn ((settings "CORS_ORIGINS").getD anyOrigin)⟩ := by
  have read : natural? greatestPort text = some port := natural?_eq_some_iff_writes.mpr writes
  simp only [ofVariables, portOf, isSet, read]
  rfl

/-- The settings of the server fail by the text of the port, as it is set, if it is not written
within the range. -/
theorem Server.ofVariables_of_not_writes {settings : Variables} {text : String}
    (isSet : settings "PORT" = some text) (unwritten : ∀ port, ¬Writes (2 ^ 16 - 1) port text) :
    ofVariables settings = .error (.invalidPort text) := by
  have unread : natural? greatestPort text = none := by
    rw [Option.eq_none_iff_forall_ne_some]
    intro port read
    exact unwritten port (natural?_eq_some_iff_writes.mp read)
  simp only [ofVariables, portOf, isSet, unread]
  rfl

/-! ## All numbers -/

/-- A port that is set is the number that its text writes within 16 bits, and any other text is an
error that tells the text. A limit of the chat model is the number that its variable writes within
its range, or else its default, and no text of it is an error: settings fail only if the key is
missing or the temperature cannot be used, and as they do with any other text of the limit, unless
that is the key. -/
theorem numbers_exact (settings : Variables) :
    (∀ text, settings "PORT" = some text →
      (∀ port, (∃ server, Server.ofVariables settings = .ok server ∧ server.port = port) ↔
        Writes (2 ^ 16 - 1) port text) ∧
      ((∀ port, ¬Writes (2 ^ 16 - 1) port text) →
        Server.ofVariables settings = .error (.invalidPort text))) ∧
    (∀ limit ∈ limits, ∀ model, Model.ofVariables settings = .ok model →
      (∀ text n, settings limit.name = some text → Writes limit.greatest n text →
        limit.place model = n) ∧
      ((∀ text, settings limit.name = some text → ∀ n, ¬Writes limit.greatest n text) →
        limit.place model = limit.standard)) ∧
    (∀ failure, Model.ofVariables settings = .error failure →
      ((∀ raw, settings (keyVariable settings) = some raw → isBlankString raw = true) ∧
        failure = .missingKey (keyVariable settings)) ∨
      ∃ text, settings "LLM_TEMPERATURE" = some text ∧
        (failure = .invalidSetting ("invalid LLM_TEMPERATURE: " ++ text) ∨
          failure = .invalidSetting ("LLM_TEMPERATURE out of range (0.0..=2.0): " ++ text))) ∧
    (∀ limit ∈ limits, ∀ settings' : Variables, keyVariable settings ≠ limit.name →
      (∀ name, name ≠ limit.name → settings' name = settings name) → ∀ failure,
      (Model.ofVariables settings' = .error failure ↔
        Model.ofVariables settings = .error failure)) := by
  refine ⟨fun text isSet => ⟨fun port => ?port, ?refused⟩, fun limit listed model loaded => ?limit,
    fun failure failed => ?failure, fun limit listed settings' other same failure => ?apart⟩
  case port =>
    constructor
    · rintro ⟨server, loaded, rfl⟩
      by_contra unwritten
      have other (port : Nat) : ¬Writes (2 ^ 16 - 1) port text := by
        intro writes
        rw [Server.ofVariables_of_writes isSet writes] at loaded
        obtain rfl := Except.ok.inj loaded
        exact unwritten writes
      rw [Server.ofVariables_of_not_writes isSet other] at loaded
      cases loaded
    · intro writes
      exact ⟨_, Server.ofVariables_of_writes isSet writes, rfl⟩
  case refused => exact Server.ofVariables_of_not_writes isSet
  case limit =>
    rw [(Model.isHeldBy_of_loaded loaded).place_eq listed]
    constructor
    · intro text n isSet writes
      exact naturalOr_of_writes isSet writes limit.standard
    · intro unwritten
      exact naturalOr_of_not_writes unwritten limit.standard
  case failure =>
    rcases Model.ofVariables_eq_error_iff.mp failed with ⟨keyless, missing⟩ | ⟨-, unusable⟩
    · exact .inl ⟨apiKeyOf?_eq_none_iff.mp keyless, missing⟩
    · exact .inr (exists_of_temperatureOf_eq_error unusable)
  case apart => exact Model.ofVariables_eq_error_congr listed same other failure

/-- Numbers at the ends of their ranges, with a sign, zeros in front and blanks around them, one
that is too large by one, and one with a minus sign. -/
def edgedVariables : Variables := listed [
  ("PORT", " +0065535\n"), ("GROQ_API_KEY", "k"), ("LLM_MAX_TOKENS", "4294967296"),
  ("LLM_REQUEST_TIMEOUT_SECS", "18446744073709551615"), ("LLM_CONNECT_TIMEOUT_SECS", "-0")]

/-- The numbers of the edged variables are read exactly where they are within their ranges. A port
that is too large by one is refused by its text, and words for a limit leave the failure as it
is. -/
theorem numbers_exact_edged :
    (∃ server, Server.ofVariables edgedVariables = .ok server ∧ server.port = 65535) ∧
    Server.ofVariables (listed [("PORT", " 65536")]) = .error (.invalidPort " 65536") ∧
    (∃ model, Model.ofVariables edgedVariables = .ok model ∧ model.maxTokens = 4096 ∧
      model.requestSeconds = 18446744073709551615 ∧ model.connectSeconds = 10) ∧
    Model.ofVariables (listed [("LLM_MAX_TOKENS", "many")]) =
      .error (.missingKey "GROQ_API_KEY") := by
  have written {greatest n : Nat} {text : String} (read : natural? greatest text = some n) :
      Writes greatest n text := natural?_eq_some_iff_writes.mp read
  have unwritten {greatest : Nat} {text : String} (unread : natural? greatest text = none)
      (n : Nat) : ¬Writes greatest n text := by
    intro writes
    rw [natural?_eq_some_iff_writes.mpr writes] at unread
    cases unread
  obtain ⟨port, limit, -, -⟩ := numbers_exact edgedVariables
  obtain ⟨beyond, -, -, -⟩ := numbers_exact (listed [("PORT", " 65536")])
  obtain ⟨-, -, -, apart⟩ := numbers_exact (listed [])
  have loads : (Model.ofVariables edgedVariables).toOption.isSome = true := by decide +kernel
  obtain ⟨model, made⟩ := Option.isSome_iff_exists.mp loads
  have loaded := Json.toOption_eq_some_iff.mp made
  refine ⟨((port " +0065535\n" rfl).1 65535).mpr (written (by decide +kernel)),
    (beyond " 65536" rfl).2 (unwritten (by decide +kernel)), ⟨model, loaded, ?_, ?_, ?_⟩, ?_⟩
  · refine (limit _ (.head _) model loaded).2 fun text isSet => ?_
    obtain rfl : "4294967296" = text := Option.some.inj isSet
    exact unwritten (by decide +kernel)
  · exact (limit _ (.tail _ (.head _)) model loaded).1 _ _ rfl (written (by decide +kernel))
  · refine (limit _ (.tail _ (.tail _ (.head _))) model loaded).2 fun text isSet => ?_
    obtain rfl : "-0" = text := Option.some.inj isSet
    exact unwritten (by decide +kernel)
  · refine (apart _ (.head _) _ (by decide) (fun name other => ?_) _).mpr rfl
    simp [listed, other]

end PromptDiagram.Settings
