import PromptDiagram.Chat.Reply
import PromptDiagram.Proofs.Json.Writing

/-!
# Envelopes of replies

The text of an envelope may have its members in any order, at every level, and members of other
names among them; null comes to the same as absence where a member may be null. A reply is decoded
to what its envelope says, and nothing but the first choice counts of the choices: the others must
be choices, but not even that if the first one has no content, since no completion comes of it then.
-/

namespace PromptDiagram.Chat

open Json Json.Shape Numeric

/-! ## The texts of envelopes -/

/-- The text of a count, which has 64 bits. -/
def SpellsCount (count : Nat) (text : List Char) : Prop :=
  count ≤ greatestNatural ∧ text = decimalDigits count

/-- The text of a choice's message. -/
def SpellsMessage (message : ReplyMessage) (text : List Char) : Prop :=
  ∃ members, SpellsObject members text ∧ AreMembers ["content"] members ∧
    MayHold SpellsString members "content" message.content

/-- The text of a choice. -/
def SpellsChoice (choice : Choice) (text : List Char) : Prop :=
  ∃ members, SpellsObject members text ∧ AreMembers ["message", "finish_reason"] members ∧
    MayHold SpellsMessage members "message" choice.message ∧
    MayHold SpellsString members "finish_reason" choice.finishReason

/-- The text of accounts. A count that is left out is zero. -/
def SpellsUsage (usage : Usage) (text : List Char) : Prop :=
  ∃ members, SpellsObject members text ∧
    AreMembers ["prompt_tokens", "completion_tokens"] members ∧
    MayOmit SpellsCount members "prompt_tokens" 0 usage.promptTokens ∧
    MayOmit SpellsCount members "completion_tokens" 0 usage.completionTokens

/-- The text of an envelope whose choices have given texts. If choices are left out there are
none. -/
def SpellsEnvelope (model : Option String) (choices : List (List Char)) (usage : Option Usage)
    (text : List Char) : Prop :=
  ∃ members, SpellsObject members text ∧ AreMembers ["model", "choices", "usage"] members ∧
    MayHold SpellsString members "model" model ∧
    MayOmit SpellsArray members "choices" [] choices ∧
    MayHold SpellsUsage members "usage" usage

/-! ## Places of the fields -/

/-- The content of a message has a place of its own. -/
theorem ReplyMessage.keeps_content :
    shape.Keeps "content" Draft.content (readOption readString) :=
  keeps_fieldOf rfl (fun _ _ => rfl) (by simp [shape])

/-- The message of a choice has a place of its own. -/
theorem Choice.keeps_message :
    shape.Keeps "message" Draft.message (readOption ReplyMessage.shape.reader) :=
  keeps_fieldOf rfl (fun _ _ => rfl) (by simp [shape, spares_fieldOf])

/-- The reason why a choice ends has a place of its own. -/
theorem Choice.keeps_finishReason :
    shape.Keeps "finish_reason" Draft.finishReason (readOption readString) :=
  keeps_fieldOf rfl (fun _ _ => rfl) (by simp [shape, spares_fieldOf])

/-- The tokens of the prompt have a place of their own. -/
theorem Usage.keeps_promptTokens :
    shape.Keeps "prompt_tokens" Draft.promptTokens readNatural :=
  keeps_fieldOf rfl (fun _ _ => rfl) (by simp [shape, spares_fieldOf])

/-- The tokens of the completion have a place of their own. -/
theorem Usage.keeps_completionTokens :
    shape.Keeps "completion_tokens" Draft.completionTokens readNatural :=
  keeps_fieldOf rfl (fun _ _ => rfl) (by simp [shape, spares_fieldOf])

/-- The model of an envelope has a place of its own. -/
theorem Envelope.keeps_model :
    shape.Keeps "model" Draft.model (readOption readString) :=
  keeps_fieldOf rfl (fun _ _ => rfl) (by simp [shape, spares_fieldOf])

/-- The choices of an envelope have a place of their own. -/
theorem Envelope.keeps_choices :
    shape.Keeps "choices" Draft.choices (readList Choice.shape.reader) :=
  keeps_fieldOf rfl (fun _ _ => rfl) (by simp [shape, spares_fieldOf])

/-- The accounts of an envelope have a place of their own. -/
theorem Envelope.keeps_usage :
    shape.Keeps "usage" Draft.usage (readOption Usage.shape.reader) :=
  keeps_fieldOf rfl (fun _ _ => rfl) (by simp [shape, spares_fieldOf])

/-! ## Reading the parts -/

variable {text : List Char}

/-- A string that may be null is read. -/
theorem readsAs_optionalString (s : Option String) (text : List Char)
    (spells : SpellsOption SpellsString s text) : ReadsAs (readOption readString) s text :=
  spells.readsAs refusesNull_readString fun _ _ => readsAs_string

/-- A count is read. -/
theorem readsAs_count (count : Nat) (text : List Char) (spells : SpellsCount count text) :
    ReadsAs readNatural count text := by
  obtain ⟨small, rfl⟩ := spells
  exact readsAs_natural small

/-- A message is read. -/
theorem readsAs_message (message : ReplyMessage) (text : List Char)
    (spells : SpellsMessage message text) : ReadsAs ReplyMessage.shape.reader message text := by
  obtain ⟨members, object, are, content, has, rest⟩ := spells
  have keeps := ReplyMessage.keeps_content
  refine readsAs object are rfl ?_ (by simp [StartsBlank, ReplyMessage.shape]) fun final holds => ?_
  · simp only [List.forall_mem_cons, List.not_mem_nil, false_implies, implies_true, and_true]
    exact keeps.fits readsAs_optionalString (are.once _ (by simp)) has
  · simp only [ReplyMessage.shape, holds.place_eq keeps readsAs_optionalString has, rest]

/-- A message that may be null is read. -/
theorem readsAs_optionalMessage (message : Option ReplyMessage) (text : List Char)
    (spells : SpellsOption SpellsMessage message text) :
    ReadsAs (readOption ReplyMessage.shape.reader) message text :=
  spells.readsAs (refusesNull_reader _) readsAs_message

/-- A choice is read. -/
theorem readsAs_choice (choice : Choice) (text : List Char) (spells : SpellsChoice choice text) :
    ReadsAs Choice.shape.reader choice text := by
  obtain ⟨members, object, are, ⟨message, has, same⟩, reason, has', same'⟩ := spells
  have keeps := Choice.keeps_message
  have keeps' := Choice.keeps_finishReason
  refine readsAs object are rfl ?_ (by simp [StartsBlank, Choice.shape]) fun final holds => ?_
  · simp only [List.forall_mem_cons, List.not_mem_nil, false_implies, implies_true, and_true]
    exact ⟨keeps.fits readsAs_optionalMessage (are.once _ (by simp)) has,
      keeps'.fits readsAs_optionalString (are.once _ (by simp)) has'⟩
  · simp only [Choice.shape, holds.place_eq keeps readsAs_optionalMessage has,
      holds.place_eq keeps' readsAs_optionalString has', same, same']

/-- Accounts are read. -/
theorem readsAs_usage (usage : Usage) (text : List Char) (spells : SpellsUsage usage text) :
    ReadsAs Usage.shape.reader usage text := by
  obtain ⟨members, object, are, ⟨prompt, has, same⟩, completion, has', same'⟩ := spells
  have keeps := Usage.keeps_promptTokens
  have keeps' := Usage.keeps_completionTokens
  refine readsAs object are rfl ?_ (by simp [StartsBlank, Usage.shape]) fun final holds => ?_
  · simp only [List.forall_mem_cons, List.not_mem_nil, false_implies, implies_true, and_true]
    exact ⟨keeps.fits readsAs_count (are.once _ (by simp)) has,
      keeps'.fits readsAs_count (are.once _ (by simp)) has'⟩
  · simp only [Usage.shape, holds.place_eq keeps readsAs_count has,
      holds.place_eq keeps' readsAs_count has', same, same']

/-- Accounts that may be null are read. -/
theorem readsAs_optionalUsage (usage : Option Usage) (text : List Char)
    (spells : SpellsOption SpellsUsage usage text) :
    ReadsAs (readOption Usage.shape.reader) usage text :=
  spells.readsAs (refusesNull_reader _) readsAs_usage

/-! ## Reading envelopes -/

/-- Choices are read if each of them is one. -/
theorem readsAs_choices (choices : List Choice) (text : List Char)
    (spells : ∃ texts, SpellsArray texts text ∧ List.Forall₂ SpellsChoice choices texts) :
    ReadsAs (readList Choice.shape.reader) choices text := by
  obtain ⟨texts, array, each⟩ := spells
  exact readsAs_list array (each.imp readsAs_choice)

/-- An envelope is read if its choices are choices. -/
theorem readsAs_envelope {model : Option String} {texts : List (List Char)} {usage : Option Usage}
    (spells : SpellsEnvelope model texts usage text) {choices : List Choice}
    (each : List.Forall₂ SpellsChoice choices texts) :
    ReadsAs Envelope.shape.reader ⟨model, choices, usage⟩ text := by
  obtain ⟨members, object, are, ⟨model, has, rfl⟩, ⟨given, has', rfl⟩, usage, has'', rfl⟩ := spells
  have keeps := Envelope.keeps_model
  have keeps' := Envelope.keeps_choices
  have keeps'' := Envelope.keeps_usage
  obtain ⟨read, has', rfl⟩ : ∃ read, MayHave (fun choices text => ∃ texts,
      SpellsArray texts text ∧ List.Forall₂ SpellsChoice choices texts) members "choices" read ∧
      read.getD [] = choices := by
    cases has' with
    | absent absent =>
      cases each
      exact ⟨none, .absent absent, rfl⟩
    | given mem array => exact ⟨some choices, .given mem ⟨_, array, each⟩, rfl⟩
  refine readsAs object are rfl ?_ (by simp [StartsBlank, Envelope.shape]) fun final holds => ?_
  · simp only [List.forall_mem_cons, List.not_mem_nil, false_implies, implies_true, and_true]
    exact ⟨keeps.fits readsAs_optionalString (are.once _ (by simp)) has,
      keeps'.fits readsAs_choices (are.once _ (by simp)) has',
      keeps''.fits readsAs_optionalUsage (are.once _ (by simp)) has''⟩
  · simp only [Envelope.shape, holds.place_eq keeps readsAs_optionalString has,
      holds.place_eq keeps' readsAs_choices has',
      holds.place_eq keeps'' readsAs_optionalUsage has'']

/-- All members of an envelope give something if its choices do. -/
theorem gives_members {members : List (String × List Char)}
    (are : AreMembers ["model", "choices", "usage"] members) {model : Option (Option String)}
    (has : MayHave (SpellsOption SpellsString) members "model" model) {choices : List Char}
    (mem : ("choices", choices) ∈ members) {texts : List (List Char)}
    (array : SpellsArray texts choices)
    (items : ∀ text ∈ texts, ∃ property, Gives text property)
    {usage : Option (Option Usage)}
    (has' : MayHave (SpellsOption SpellsUsage) members "usage" usage) :
    ∀ member ∈ members, ∃ property, Gives member.2 property := by
  intro ⟨name, text⟩ here
  by_cases known : name ∈ ["model", "choices", "usage"]
  · simp only [List.mem_cons, List.not_mem_nil, or_false] at known
    rcases known with rfl | rfl | rfl
    · obtain ⟨_, _, _, _, _, reads⟩ := Envelope.keeps_model.fits readsAs_optionalString
        (are.once _ (by simp)) has text here
      exact ⟨_, reads⟩
    · obtain rfl := eq_of_count_le_one (are.once _ (by simp)) here mem
      exact ⟨_, array.gives items⟩
    · obtain ⟨_, _, _, _, _, reads⟩ := Envelope.keeps_usage.fits readsAs_optionalUsage
        (are.once _ (by simp)) has' text here
      exact ⟨_, reads⟩
  · exact ⟨_, (are.others _ here known).gives⟩

/-- The first of the choices that are read is the first one of the text, whatever the others are. -/
theorem gives_first {model : Option String} {first : List Char} {others : List (List Char)}
    {usage : Option Usage} (spells : SpellsEnvelope model (first :: others) usage text)
    {choice : Choice} (is : SpellsChoice choice first) (json : ∀ other ∈ others, IsJson other) :
    Gives text fun outline => ∀ envelope, Envelope.shape.reader outline = .ok envelope →
      envelope.choices.head? = some choice := by
  obtain ⟨members, object, are, ⟨model, has, -⟩, ⟨given, has', same⟩, usage, has'', -⟩ := spells
  have items : ∀ item ∈ first :: others, ∃ property, Gives item property :=
    List.forall_mem_cons.mpr
      ⟨⟨_, readsAs_choice choice first is⟩, fun other mem => ⟨_, (json other mem).gives⟩⟩
  cases has' with
  | absent absent => cases same
  | @given _ choices mem array =>
    obtain rfl := same
    have holding := gives_holds Envelope.shape object
      (gives_members are has mem array items has'') (by simp [StartsBlank, Envelope.shape])
    refine holding.imp fun outline inverted envelope done => ?_
    obtain ⟨final, holds, finished⟩ := inverted envelope done
    obtain ⟨outline, read, found, done, placed⟩ := (holds Envelope.keeps_choices).2 choices mem
    obtain ⟨start, inside, rfl, has⟩ := (array.gives items).holds found
    cases forall₂_of_readItems has done with
    | cons begins _ =>
      obtain ⟨outline, found, made⟩ := begins
      obtain rfl := Except.ok.inj (made.symm.trans ((readsAs_choice choice first is).holds found))
      obtain rfl := Except.ok.inj finished
      simp [placed]

/-! ## Decoding replies -/

/-- A reply is decoded as its envelope says. -/
theorem decodeReply_of_readsAs {envelope : Envelope}
    (reads : ReadsAs Envelope.shape.reader envelope text) {body : List Char}
    (padded : Padded text body) : decodeReply body = envelope.completion := by
  simp only [decodeReply, reads.decodeText padded]

/-- Nothing is decoded of a reply whose first choice has no content, whatever the others are. -/
theorem decodeReply_of_lacking {model : Option String} {first : List Char}
    {others : List (List Char)} {usage : Option Usage}
    (spells : SpellsEnvelope model (first :: others) usage text) {choice : Choice}
    (is : SpellsChoice choice first) (lacks : choice.message.bind ReplyMessage.content = none)
    (json : ∀ other ∈ others, IsJson other) {body : List Char} (padded : Padded text body) :
    ∃ why, decodeReply body = .error (.undecodable why) := by
  have gives := gives_first spells is json
  obtain ⟨outline, found, decoded⟩ := gives.decodeSymbols padded
  have head := gives.holds found
  rw [decodeReply, decodeText, decoded]
  cases read : Envelope.shape.reader outline with
  | error fault => exact ⟨_, rfl⟩
  | ok envelope =>
    obtain ⟨rest, begins⟩ := List.head?_eq_some_iff.mp (head envelope read)
    exact ⟨_, by simp only [Envelope.completion, begins, lacks]; rfl⟩

/-- The reply with a given envelope is decoded to the text of its first choice, the reason why that
ends, the model and the counts, if the other choices are choices: what is left out or null is empty
or zero. If there are no choices, or the first one has no content, nothing is decoded, whatever the
other choices are. -/
theorem decodeReply_envelope {model : Option String} {choices : List (List Char)}
    {usage : Option Usage} {text body : List Char}
    (spells : SpellsEnvelope model choices usage text) (padded : Padded text body) :
    (∀ content finishReason first behind others, choices = first :: others →
      SpellsChoice ⟨some ⟨some content⟩, finishReason⟩ first →
      List.Forall₂ SpellsChoice behind others →
      decodeReply body = .ok {
        text := content
        model := model.getD ""
        finishReason := finishReason.getD ""
        promptTokens := (usage.map Usage.promptTokens).getD 0
        completionTokens := (usage.map Usage.completionTokens).getD 0 }) ∧
    (choices = [] → decodeReply body = .error (.undecodable "reply has no choices")) ∧
    (∀ choice first others, choices = first :: others → SpellsChoice choice first →
      choice.message.bind ReplyMessage.content = none → (∀ other ∈ others, IsJson other) →
      ∃ why, decodeReply body = .error (.undecodable why)) := by
  refine ⟨?decoded, ?empty, ?lacking⟩
  case decoded =>
    rintro content finishReason first behind others rfl is each
    rw [decodeReply_of_readsAs (readsAs_envelope spells (.cons is each)) padded]
    rfl
  case empty =>
    rintro rfl
    rw [decodeReply_of_readsAs (readsAs_envelope spells .nil) padded]
    rfl
  case lacking =>
    rintro choice first others rfl is lacks json
    exact decodeReply_of_lacking spells is lacks json padded

/-! ## A scattered reply -/

/-- A message whose text needs escaping, with a member of another name. -/
def scatteredMessage : List (String × Value) := [
  ("content", .text "a\"b\n\x01"),
  ("role", .text "assistant")]

/-- A choice whose reason for ending is null, with a member of another name. -/
def scatteredChoice : List (String × Value) := [
  ("finish_reason", .null),
  ("index", .ofNat 0),
  ("message", .object scatteredMessage)]

/-- Accounts of as many tokens as there can be, with none for the prompt. -/
def scatteredUsage : List (String × Value) := [
  ("total", .array [.null]),
  ("completion_tokens", .ofNat 18446744073709551615)]

/-- An envelope with its members out of order and one of another name among them. -/
def scatteredReply : List (String × Value) := [
  ("id", .text "\"r\""),
  ("usage", .object scatteredUsage),
  ("choices", .array [.object scatteredChoice, .object [("message", .null)]]),
  ("model", .null)]

/-- The texts of the choices of the scattered reply. -/
def scatteredChoices : List (List Char) :=
  [.object scatteredChoice, .object [("message", .null)]].map (Value.laid .airy 2)

/-- The scattered reply is an envelope. -/
theorem spellsEnvelope_scattered :
    SpellsEnvelope none scatteredChoices (some ⟨0, 18446744073709551615⟩)
      ((Value.object scatteredReply).laid .airy 0) := by
  have usage : SpellsUsage ⟨0, 18446744073709551615⟩
      ((Value.object scatteredUsage).laid .airy 1) :=
    ⟨_, spellsObject_laid .airy 1 _, areMembers_laid .airy 1 (by decide) rfl,
      ⟨none, .absent (by simp [scatteredUsage]), rfl⟩,
      ⟨some _, .given (.tail _ (.head _)) ⟨by decide, rfl⟩, rfl⟩⟩
  exact ⟨_, spellsObject_laid .airy 0 _, areMembers_laid .airy 0 (by decide) rfl,
    ⟨some none, .given (.tail _ (.tail _ (.tail _ (.head _)))) .null, rfl⟩,
    ⟨some _, .given (.tail _ (.tail _ (.head _))) (spellsArray_laid .airy 1 _), rfl⟩,
    ⟨some (some _), .given (.tail _ (.head _)) (.given usage), rfl⟩⟩

/-- The choices of the scattered reply are choices. -/
theorem spellsChoices_scattered :
    List.Forall₂ SpellsChoice [⟨some ⟨some "a\"b\n\x01"⟩, none⟩, ⟨none, none⟩]
      scatteredChoices := by
  have message : SpellsMessage ⟨some "a\"b\n\x01"⟩
      ((Value.object scatteredMessage).laid .airy 3) :=
    ⟨_, spellsObject_laid .airy 3 _, areMembers_laid .airy 3 (by decide) rfl,
      ⟨some (some _), .given (.head _) (.given (spellsString_quote _)), rfl⟩⟩
  have first : SpellsChoice ⟨some ⟨some "a\"b\n\x01"⟩, none⟩
      ((Value.object scatteredChoice).laid .airy 2) :=
    ⟨_, spellsObject_laid .airy 2 _, areMembers_laid .airy 2 (by decide) rfl,
      ⟨some (some _), .given (.tail _ (.tail _ (.head _))) (.given message), rfl⟩,
      ⟨some none, .given (.head _) .null, rfl⟩⟩
  have second : SpellsChoice ⟨none, none⟩ ((Value.object [("message", .null)]).laid .airy 2) :=
    ⟨_, spellsObject_laid .airy 2 _, areMembers_laid .airy 2 (by decide) rfl,
      ⟨some none, .given (.head _) .null, rfl⟩, ⟨none, .absent (by simp), rfl⟩⟩
  exact .cons first (.cons second .nil)

/-- The scattered reply is decoded to the text of its first choice and its one count. -/
theorem decodeReply_scattered :
    decodeReply ((Value.object scatteredReply).indented 0 ++ ['\n']) = .ok {
      text := "a\"b\n\x01"
      model := ""
      finishReason := ""
      promptTokens := 0
      completionTokens := 18446744073709551615 } := by
  have padded : Padded ((Value.object scatteredReply).laid .airy 0)
      ([] ++ ((Value.object scatteredReply).laid .airy 0 ++ ['\n'])) :=
    .mk areSpaces_nil (by simp [AreSpaces, isSpace])
  rw [indented_eq_laid]
  cases spellsChoices_scattered with
  | cons first others =>
    exact (decodeReply_envelope spellsEnvelope_scattered padded).1 _ _ _ _ _ rfl first others

end PromptDiagram.Chat
