import PromptDiagram.Proofs.Render.Scene
import PromptDiagram.Render.Renderer

/-!
# Fenced blocks

A text in a fenced block ends at the first line that begins like a fence, so the block holds the
text only if no line of the text does. In every notation a line begins, behind its spaces, with an
identifier, a quotation mark, a bracket, a brace, a digit or a fixed word, and none of these is a
backquote. For drawings this is seen statement by statement; for scenes, which are JSON, it is
seen from the line feeds: each is followed by spaces and the beginning of a value or the end of
one.
-/

namespace PromptDiagram

open Text

/-- Whether a line begins like a fence: with at most three spaces and then three backquotes. -/
def isFence (line : String) : Bool :=
  let indentation := line.toList.takeWhile (· == ' ')
  let rest := line.toList.dropWhile (· == ' ')
  decide (indentation.length ≤ 3) && "```".toList.isPrefixOf rest

/-- The tag and the content of the fenced block that a text begins with. The first line that begins
like a fence ends the content. -/
def fencedBlock? (text : String) : Option (String × String) :=
  match textLines text with
  | [] => none
  | opening :: lines =>
    match afterMark? "```" opening.toList, lines.dropWhile (!isFence ·) with
    | some tag, _ :: _ => some (String.ofList tag, joinLines (lines.takeWhile (!isFence ·)))
    | _, _ => none

/-! ## Beginnings of lines -/

/-- Whether a text begins, behind its spaces, with a character that is neither a line feed nor a
backquote. -/
def Starts (text : List Char) : Prop :=
  ∃ c ∈ (text.dropWhile (· == ' ')).head?, c ≠ '\n' ∧ c ≠ '\x60'

instance (text : List Char) : Decidable (Starts text) :=
  decidable_of_iff ((text.dropWhile (· == ' ')).head?.any fun c => c != '\n' && c != '\x60')
    (by simp [Starts, Option.any_eq_true])

variable {text front : List Char}

/-- What a text begins with does not depend on what follows it. -/
theorem Starts.append (starts : Starts front) (back : List Char) : Starts (front ++ back) := by
  obtain ⟨c, begins, other⟩ := starts
  have nonempty : (front.dropWhile (· == ' ')).isEmpty = false := by
    cases rest : front.dropWhile (· == ' ') <;> simp_all
  refine ⟨c, ?_, other⟩
  rw [List.dropWhile_append, nonempty, if_neg Bool.false_ne_true, List.head?_append, begins]
  rfl

/-- Spaces before a text make no difference to what it begins with. -/
theorem Starts.indent (starts : Starts text) {spaces : List Char}
    (blank : spaces.all (· == ' ') = true) : Starts (spaces ++ text) := by
  rw [Starts, List.dropWhile_append_of_pos (List.all_eq_true.mp blank)]
  exact starts

/-- A text begins with its first character unless that is a space. -/
theorem starts_cons {c : Char} (space : c ≠ ' ') (feed : c ≠ '\n') (mark : c ≠ '\x60')
    (rest : List Char) : Starts (c :: rest) := by
  refine ⟨c, ?_, feed, mark⟩
  rw [List.dropWhile_cons_of_neg (by simpa using space)]
  rfl

/-- A text begins with its first character if that is of a class with no space, no line feed and no
backquote. -/
theorem starts_of_class {p : Char → Bool} (space : p ' ' = false) (feed : p '\n' = false)
    (mark : p '\x60' = false) {c : Char} (within : p c = true) (rest : List Char) :
    Starts (c :: rest) := by
  refine starts_cons ?_ ?_ ?_ rest
  · rintro rfl
    simp [within] at space
  · rintro rfl
    simp [within] at feed
  · rintro rfl
    simp [within] at mark

/-- The beginning of a line that stands first in a text is that of the text. -/
theorem Starts.line {line rest : List Char} (starts : Starts (line ++ '\n' :: rest)) :
    Starts line := by
  obtain ⟨c, begins, feed, mark⟩ := starts
  refine ⟨c, ?_, feed, mark⟩
  rw [List.dropWhile_append] at begins
  cases left : line.dropWhile (· == ' ') with
  | nil =>
    rw [left] at begins
    obtain rfl : '\n' = c := by simpa using begins
    exact absurd rfl feed
  | cons d tail => simpa [left] using begins

/-- No line is a fence that begins with another character than a backquote. -/
theorem isFence_of_starts {line : String} (starts : Starts line.toList) : isFence line = false := by
  obtain ⟨c, begins, -, mark⟩ := starts
  cases rest : line.toList.dropWhile (· == ' ') with
  | nil => simp [isFence, rest]
  | cons d tail =>
    obtain rfl : d = c := by simpa [rest] using begins
    simp [isFence, rest, List.isPrefixOf, Ne.symm mark]

/-- What a line begins with does not depend on what is written behind it. -/
theorem Starts.append_text {front : String} (starts : Starts front.toList) (back : String) :
    Starts (front ++ back).toList := by
  rw [String.toList_append]
  exact starts.append back.toList

/-- A line begins with the identifier that stands first. -/
theorem starts_of_isBare {name : String} (bare : isBare name = true) : Starts name.toList := by
  have word := isWord_of_isBare bare
  cases chars : name.toList with
  | nil => simp [isBare, chars, isIdentifier] at bare
  | cons c rest =>
    have first := word c (by rw [chars]; exact List.mem_cons_self)
    exact starts_of_class rfl rfl rfl first rest

/-! ## Drawings -/

namespace Mermaid

/-- A statement begins with what it says. -/
theorem starts_statement {text : String} (starts : Starts text.toList) :
    Starts (statement text).toList := by
  rw [statement, String.toList_append]
  exact starts.indent rfl

/-- Every line of a flowchart begins with a fixed word or an identifier. -/
theorem starts_flowchart (graph : Graph) (direction : Direction) :
    ∀ line ∈ flowchart graph direction, Starts line.toList := by
  intro line mem
  rcases List.mem_cons.mp mem with rfl | mem
  · exact Starts.append_text (by decide) _
  rcases List.mem_append.mp mem with mem | mem
  · obtain ⟨d, declared, rfl⟩ := List.mem_map.mp mem
    have name := starts_of_isBare (Graph.isBare_of_mem_declarations declared)
    exact starts_statement (((name.append_text _).append_text _).append_text _)
  · obtain ⟨l, linked, rfl⟩ := List.mem_map.mp mem
    have source := starts_of_isBare (Graph.isBare_of_mem_links linked).1
    unfold link
    split
    · exact starts_statement ((((source.append_text _).append_text _).append_text _).append_text _)
    · exact starts_statement ((source.append_text _).append_text _)

/-- Every line of an entity diagram begins with a fixed word or an identifier. -/
theorem starts_entityDiagram (graph : Graph) :
    ∀ line ∈ entityDiagram graph, Starts line.toList := by
  intro line mem
  rcases List.mem_cons.mp mem with rfl | mem
  · decide
  rcases List.mem_append.mp mem with mem | mem
  · obtain ⟨name, shown, rfl⟩ := List.mem_map.mp mem
    have name := starts_of_isBare (Graph.isBare_of_mem_entities shown)
    exact starts_statement (name.append_text _)
  · obtain ⟨l, related, rfl⟩ := List.mem_map.mp mem
    have source := starts_of_isBare (Graph.isBare_of_mem_relations related).1
    exact starts_statement ((((source.append_text _).append_text _).append_text _).append_text _)

end Mermaid

/-- Every line of a drawing in PlantUML begins with a fixed word or an identifier. -/
theorem PlantUml.starts_lines (graph : Graph) : ∀ line ∈ lines graph, Starts line.toList := by
  intro line mem
  simp only [lines, List.mem_append, List.mem_map, List.mem_singleton] at mem
  rcases mem with ((opened | ⟨d, declared, rfl⟩) | ⟨l, linked, rfl⟩) | rfl
  · have fixed : ∀ line ∈ opening, Starts line.toList := by decide
    exact fixed line opened
  · refine Starts.append_text (Starts.append_text (Starts.append_text ?_ _) _) _
    decide
  · have source := starts_of_isBare (Graph.isBare_of_mem_links linked).1
    have arrow := (source.append_text " --> ").append_text l.target
    unfold link
    dsimp only
    split
    · exact (arrow.append_text _).append_text _
    · exact arrow
  · decide

namespace Dot

/-- A token begins with a quotation mark or with a plain character. -/
theorem starts_token (id : String) : Starts (token id).toList := by
  rcases token_cases id with quoted | ⟨same, nonempty, plain⟩
  · rw [quoted, toList_quoted]
    exact starts_cons (by decide) (by decide) (by decide) _
  · rw [same]
    cases chars : id.toList with
    | nil => exact absurd chars nonempty
    | cons c rest =>
      have first := plain c (by rw [chars]; exact List.mem_cons_self)
      exact starts_of_class rfl rfl rfl first rest

/-- A line begins with the token that stands first behind the spaces. -/
theorem starts_indented (id : String) : Starts ("  " ++ token id).toList := by
  rw [String.toList_append]
  exact (starts_token id).indent rfl

/-- Every line of a DOT text begins with a fixed word, a brace or a token. -/
theorem starts_lines (graph : Graph) (direction : Direction) :
    ∀ line ∈ lines graph direction, Starts line.toList := by
  intro line mem
  simp only [lines, List.mem_append, List.mem_map, List.mem_singleton] at mem
  rcases mem with ((opened | ⟨n, declared, rfl⟩) | ⟨e, linked, rfl⟩) | rfl
  · revert line
    cases direction <;> decide
  · exact ((starts_indented n.id).append_text _).append_text _
  · exact ((((starts_indented e.source).append_text _).append_text _).append_text _).append_text _
  · decide

end Dot

/-! ## Values with indentation -/

/-- Whether every line but the first one begins with a character that is no backquote. -/
def FeedsStart (text : List Char) : Prop :=
  ∀ before after, text = before ++ '\n' :: after → Starts after

/-- A text without line feeds has no line but the first one. -/
theorem feedsStart_of_not_mem (single : '\n' ∉ text) : FeedsStart text := by
  rintro before after rfl
  exact absurd (by simp) single

/-- A character in front that is no line feed makes no difference to the lines behind the first. -/
theorem feedsStart_cons {c : Char} (other : c ≠ '\n') :
    FeedsStart (c :: text) ↔ FeedsStart text := by
  refine ⟨fun feeds before after parts => feeds (c :: before) after (by rw [parts]; rfl),
    fun feeds before after parts => ?_⟩
  cases before with
  | nil => exact absurd (List.cons.inj parts).1 other
  | cons d before => exact feeds before after (List.cons.inj parts).2

/-- Lines that begin in one of two texts begin where these are put together. -/
theorem FeedsStart.append {back : List Char} (feeds : FeedsStart front)
    (feeds' : FeedsStart back) : FeedsStart (front ++ back) := by
  intro before after parts
  rcases List.append_eq_append_iff.mp parts with ⟨middle, rfl, behind⟩ | ⟨middle, split, behind⟩
  · exact feeds' middle after behind
  · cases middle with
    | nil => exact feeds' [] after behind.symm
    | cons c middle =>
      obtain ⟨rfl, rfl⟩ := List.cons.inj behind
      exact (feeds before middle split).append back

namespace Json

/-- A new line begins with the text behind its indentation. -/
theorem feedsStart_newLine (starts : Starts text) (feeds : FeedsStart text) (level : Nat) :
    FeedsStart (newLine level ++ text) := by
  intro before after parts
  cases before with
  | nil =>
    obtain rfl : List.replicate (2 * level) ' ' ++ text = after := (List.cons.inj parts).2
    exact starts.indent (by simp)
  | cons c before =>
    have blank : '\n' ∉ List.replicate (2 * level) ' ' := by simp [List.mem_replicate]
    exact (feedsStart_of_not_mem blank).append feeds before after (List.cons.inj parts).2

/-- No character is written by a line feed. -/
theorem not_mem_written {c : Char} {written : List Char} (writes : Writes c written) :
    '\n' ∉ written := by
  have digit : ∀ n < 16, '\n' ≠ Nat.digitChar n := by decide
  cases writes with
  | plain _ _ control =>
    intro mem
    obtain rfl : '\n' = c := by simpa using mem
    exact absurd (by decide) control
  | letter _ meant =>
    intro mem
    obtain rfl : '\n' = _ := by simpa using mem
    simp [escaped?] at meant
  | unit control =>
    have first := digit (c.toNat / 16) (by omega)
    have second := digit (c.toNat % 16) (by omega)
    simp [first, second]

/-- A string in quotation marks has no line feed. -/
theorem not_mem_quote (s : String) : '\n' ∉ quote s := by
  have escaped (c : Char) : '\n' ∉ escapeChar c := not_mem_written (writes_escapeChar c)
  simp [quote, escaped]

/-- A whole number has no line feed. -/
theorem not_mem_chars {n : Number} (whole : n.isWhole = true) : '\n' ∉ n.chars := by
  have digits (n : Nat) : '\n' ∉ Numeric.decimalDigits n := fun mem =>
    absurd (isDigit_of_mem_decimalDigits mem) (by decide)
  cases n with
  | natural n => exact digits n
  | negative n => simp [Number.chars, digits n]
  | double | single => simp [Number.isWhole] at whole

/-- A value begins with the character that tells its kind. -/
theorem starts_indented {value : Value} (whole : value.isWhole = true) (level : Nat) :
    Starts (value.indented level) := by
  obtain ⟨c, tail, written, kind⟩ := laid_eq_cons .airy level whole
  have opens : (opened? c).isSome = true := by rw [kind]; rfl
  rw [indented_eq_laid, written]
  exact starts_of_class (p := fun c => (opened? c).isSome) rfl rfl rfl opens tail

/-- Every line of the items behind the first one begins so if every line of each item does. -/
theorem feedsStart_indentedItems (level : Nat) {items : List Value} (whole : areWhole items = true)
    (feeds : ∀ item ∈ items, FeedsStart (item.indented (level + 1))) :
    FeedsStart (indentedItems level items) := by
  induction items with
  | nil => exact feedsStart_newLine (by decide) (feedsStart_of_not_mem (by decide)) level
  | cons item items ih =>
    simp only [areWhole, Bool.and_eq_true] at whole
    have first := feedsStart_newLine (starts_indented whole.1 (level + 1))
      (feeds item List.mem_cons_self) (level + 1)
    have others := ih whole.2 fun item mem => feeds item (List.mem_cons_of_mem _ mem)
    simp only [indentedItems, List.cons_append, feedsStart_cons (show ',' ≠ '\n' by decide)]
    exact first.append others

/-- Every line of the members behind the first one begins so if every line of each value does. -/
theorem feedsStart_indentedMembers (level : Nat) {members : List (String × Value)}
    (feeds : ∀ member ∈ members, FeedsStart (member.2.indented (level + 1))) :
    FeedsStart (indentedMembers level members) := by
  induction members with
  | nil => exact feedsStart_newLine (by decide) (feedsStart_of_not_mem (by decide)) level
  | cons member members ih =>
    have name : FeedsStart (quote member.1 ++ [':', ' ']) :=
      (feedsStart_of_not_mem (not_mem_quote member.1)).append (feedsStart_of_not_mem (by decide))
    have starts : Starts (quote member.1 ++ [':', ' ']) :=
      starts_cons (by decide) (by decide) (by decide) _
    have first := (feedsStart_newLine starts name (level + 1)).append
      (feeds member List.mem_cons_self)
    have others := ih fun member mem => feeds member (List.mem_cons_of_mem _ mem)
    simp only [indentedMembers, List.cons_append, feedsStart_cons (show ',' ≠ '\n' by decide)]
    simpa only [List.append_assoc] using first.append others

/-- Every line but the first one of a value of whole numbers begins with a character that is no
backquote. -/
theorem feedsStart_indented {value : Value} (whole : value.isWhole = true) (level : Nat) :
    FeedsStart (value.indented level) := by
  induction value using Value.induction generalizing level with
  | null => exact feedsStart_of_not_mem (by simp [Value.indented, nullText])
  | bool b => exact feedsStart_of_not_mem (by cases b <;> simp [Value.indented, boolText])
  | number n => exact feedsStart_of_not_mem (not_mem_chars whole)
  | text s => exact feedsStart_of_not_mem (not_mem_quote s)
  | array items ih =>
    rw [Value.isWhole] at whole
    have inner := feedsStart_indentedItems level whole fun item mem =>
      ih item mem (areWhole_iff.mp whole item mem) (level + 1)
    cases items with
    | nil => exact feedsStart_of_not_mem (by simp [Value.indented])
    | cons item items =>
      -- The bracket stands where the comma stands in front of the other items.
      simp only [indentedItems, Value.indented, List.cons_append,
        feedsStart_cons (show ',' ≠ '\n' by decide),
        feedsStart_cons (show '[' ≠ '\n' by decide)] at inner ⊢
      exact inner
  | object members ih =>
    rw [Value.isWhole] at whole
    have inner := feedsStart_indentedMembers level fun member mem =>
      ih member mem (areWholeMembers_iff.mp whole member mem) (level + 1)
    cases members with
    | nil => exact feedsStart_of_not_mem (by simp [Value.indented])
    | cons member members =>
      simp only [indentedMembers, Value.indented, List.cons_append,
        feedsStart_cons (show ',' ≠ '\n' by decide),
        feedsStart_cons (show '{' ≠ '\n' by decide)] at inner ⊢
      exact inner

end Json

/-! ## Blocks -/

/-- Every line of a text begins with a character that is no backquote if the first one and those
behind its line feeds do. -/
theorem starts_of_mem_lines {lines : List (List Char)} (starts : Starts (['\n'].intercalate lines))
    (feeds : FeedsStart (['\n'].intercalate lines)) : ∀ line ∈ lines, Starts line := by
  induction lines with
  | nil => simp
  | cons line lines ih =>
    cases lines with
    | nil => simpa using starts
    | cons next lines =>
      have parts : ['\n'].intercalate (line :: next :: lines) =
          line ++ '\n' :: ['\n'].intercalate (next :: lines) := by
        simp [List.intercalate]
      rw [parts] at starts feeds
      have behind : FeedsStart (['\n'].intercalate (next :: lines)) := fun before after split =>
        feeds (line ++ '\n' :: before) after (by rw [split]; simp)
      refine List.forall_mem_cons.mpr ⟨starts.line, ih (feeds _ _ rfl) behind⟩

/-- Every line of a scene begins with a character that is no backquote. -/
theorem Scene.starts_render (graph : Graph) :
    ∀ line ∈ textLines (render graph), Starts line.toList := by
  have whole := isWhole_scene graph
  intro line mem
  obtain ⟨chars, written, rfl⟩ := List.mem_map.mp mem
  rw [String.toList_ofList]
  refine starts_of_mem_lines ?_ ?_ chars written <;>
    rw [List.intercalate_splitOn, render, Json.Value.pretty, String.toList_ofList]
  · exact Json.starts_indented whole 0
  · exact Json.feedsStart_indented whole 0

/-- The lines of a text make the text. -/
theorem joinLines_textLines (text : String) : joinLines (textLines text) = text := by
  have chars : String.toList ∘ String.ofList = id := by
    funext chars
    exact String.toList_ofList
  rw [← String.toList_inj, toList_joinLines, textLines, List.map_map, chars, List.map_id,
    List.intercalate_splitOn]

namespace Renderer

/-- Every line of a text in any notation begins with a character that is no backquote. -/
theorem starts_render (renderer : Renderer) (graph : Graph) (diagram : Diagram)
    (direction : Direction) :
    ∀ line ∈ textLines (renderer.render graph diagram direction), Starts line.toList := by
  cases renderer with
  | mermaid =>
    cases diagram with
    | flow =>
      rw [render, Mermaid.textLines_flowchart]
      exact Mermaid.starts_flowchart graph direction
    | entities =>
      rw [render, Mermaid.textLines_entityDiagram]
      exact Mermaid.starts_entityDiagram graph
  | dot =>
    rw [render, Dot.textLines_render]
    exact Dot.starts_lines graph direction
  | plantUml =>
    rw [render, PlantUml.textLines_render]
    exact PlantUml.starts_lines graph
  | excalidraw => exact Scene.starts_render graph

/-- A text in a fenced block has the lines of the text between two lines of its own. -/
theorem textLines_markdown (renderer : Renderer) (code : String) :
    textLines (renderer.markdown code) =
      ("```" ++ renderer.fence) :: (textLines code ++ ["```"]) := by
  have chars : (renderer.markdown code).toList =
      ("```" ++ renderer.fence).toList ++ '\n' :: (code.toList ++ '\n' :: "```".toList) := by
    simp [markdown, toList_joinLines, List.intercalate]
  have opening : '\n' ∉ ("```" ++ renderer.fence).toList := by cases renderer <;> decide
  have closing : '\n' ∉ "```".toList := by decide
  rw [textLines, chars, List.splitOn_append_cons_self, List.splitOn_append_cons_self,
    List.splitOn_eq_singleton opening, List.splitOn_eq_singleton closing, List.map_append,
    List.map_append, List.map_singleton, List.map_singleton, String.ofList_toList,
    String.ofList_toList]
  rfl

/-- A text of which no line begins like a fence is read back from its block, with the tag. -/
theorem fencedBlock?_markdown (renderer : Renderer) {code : String}
    (inside : ∀ line ∈ textLines code, isFence line = false) :
    fencedBlock? (renderer.markdown code) = some (renderer.fence, code) := by
  have lines := renderer.textLines_markdown code
  have tag : afterMark? "```" ("```" ++ renderer.fence).toList = some renderer.fence.toList := by
    rw [String.toList_append, afterMark?_append]
  have unfenced : ∀ line ∈ textLines code, (!isFence line) = true := by simpa using inside
  have closes : isFence "```" = true := by decide
  have content : (textLines code ++ ["```"]).takeWhile (!isFence ·) = textLines code := by
    rw [List.takeWhile_append_of_pos unfenced, List.takeWhile_cons_of_neg (by simp [closes]),
      List.append_nil]
  have behind : (textLines code ++ ["```"]).dropWhile (!isFence ·) = ["```"] := by
    rw [List.dropWhile_append_of_pos unfenced, List.dropWhile_cons_of_neg (by simp [closes])]
  simp only [fencedBlock?, lines, tag, content, behind, joinLines_textLines, String.ofList_toList]

/-- A line that begins like a fence ends the block early. -/
example : fencedBlock? (markdown .dot "a\n   ```b\nc") = some ("dot", "a") := by decide +kernel

/-- What a renderer puts in a fenced block stands there line by line between a fence with the tag
of its notation and a bare one, and no line of it begins like a fence. So the block is read back
as the tag and the text, whatever the graph. -/
theorem markdown_fenced (renderer : Renderer) (graph : Graph) (diagram : Diagram)
    (direction : Direction) :
    let code := renderer.render graph diagram direction
    textLines (renderer.markdown code) =
        ("```" ++ renderer.fence) :: (textLines code ++ ["```"]) ∧
      (∀ line ∈ textLines code, isFence line = false) ∧
      fencedBlock? (renderer.markdown code) = some (renderer.fence, code) := by
  intro code
  have inside : ∀ line ∈ textLines code, isFence line = false := fun line mem =>
    isFence_of_starts (renderer.starts_render graph diagram direction line mem)
  exact ⟨renderer.textLines_markdown code, inside, renderer.fencedBlock?_markdown inside⟩

end Renderer
end PromptDiagram
