import PromptDiagram.Proofs.Json.Writing
import PromptDiagram.Recovery

/-!
# JSON amid prose

An object that stands amid prose is recovered. The reply as a whole is refused wherever it is not
the object itself: either something is left over behind the object, or the reply begins like prose.
The part in braces is then the object and nothing else.
-/

namespace PromptDiagram.Recovery

open Json Text

variable {before part after : List Char}

/-- A text in braces. -/
structure IsBraced (part : List Char) : Prop where
  first : part.head? = some '{'
  last : part.getLast? = some '}'

/-- The part in braces is found amid other text without such braces. -/
theorem braced?_amid (braced : IsBraced part) (unopened : '{' ∉ before) (unclosed : '}' ∉ after) :
    braced? (before ++ part ++ after) = some part := by
  have opens : Stops (· != '{') (part ++ after) := by
    simp [Stops, braced.first]
  have closes : Stops (· != '}') part.reverse := by
    simp [Stops, braced.last]
  have front : fromBrace (before ++ part ++ after) = part ++ after := by
    rw [fromBrace, List.append_assoc]
    exact dropWhile_run (fun c mem => by simpa using ne_of_mem_of_not_mem mem unopened) opens
  have back : upToBrace (part ++ after) = part := by
    rw [upToBrace, List.reverse_append, dropWhile_run _ closes, List.reverse_reverse]
    intro c mem
    simpa using ne_of_mem_of_not_mem (List.mem_reverse.mp mem) unclosed
  have inhabited : part ≠ [] := by
    rintro rfl
    simpa using braced.first
  simp only [braced?, front, back]

/-- Trimming keeps a part in braces and trims what stands around it. -/
theorem trim_amid (braced : IsBraced part) (before after : List Char) :
    trim (before ++ part ++ after) = before.dropWhile isBlank ++ part ++ trimEnd after := by
  have opens : Stops isBlank (part ++ after) := by
    simp [Stops, braced.first, isBlank]
  have closes : Stops isBlank (before.dropWhile isBlank ++ part).reverse := by
    simp [Stops, braced.last, isBlank]
  rw [trim, List.append_assoc, dropWhile_append_of_stops before opens, ← List.append_assoc,
    trimEnd_append_of_last after closes]

/-- Whether a text may stand before an object: no brace opens in it, and it begins neither like a
list nor like a string. -/
structure MayPrecede (before : List Char) : Prop where
  unopened : '{' ∉ before
  begins : ∀ c ∈ (before.dropWhile isBlank).head?, c ≠ '[' ∧ c ≠ '"'

/-- A reply that begins with prose before an object is refused as a whole. -/
theorem parse_amid {c : Char} {prose : List Char} (precedes : MayPrecede before)
    (visible : before.dropWhile isBlank = c :: prose) (braced : IsBraced part)
    (after : List Char) :
    ∃ refusal, parse (before.dropWhile isBlank ++ part ++ after) = .error refusal := by
  have stops : isBlank c = false := by
    have head := List.head?_dropWhile_not isBlank before
    simpa [visible] using head
  have space : isSpace c = false := by
    rw [Bool.eq_false_iff]
    intro space
    simp only [isSpace, Bool.or_eq_true, beq_iff_eq] at space
    rcases space with ((rfl | rfl) | rfl) | rfl <;> simp [isBlank] at stops
  have member : c ∈ before := by
    have within : c ∈ before.dropWhile isBlank := by simp [visible]
    exact (List.dropWhile_sublist isBlank).mem within
  have opening : c ≠ '{' := ne_of_mem_of_not_mem member precedes.unopened
  have begins := precedes.begins c (by simp [visible])
  have brace : '{' ∈ part := List.mem_of_mem_head? braced.first
  rw [visible]
  exact parse_of_prose space ⟨begins.1, opening, begins.2⟩ (by simp [brace])

/-- A text in braces that stands amid prose is recovered, whatever the prose is: before it no brace
may open, nor may it begin like a list or a string, and behind it no brace may close. -/
theorem value_amid {value : Value} (read : parse part = .ok value)
    (unlike : value.kind ≠ .number) (braced : IsBraced part) (precedes : MayPrecede before)
    (unclosed : '}' ∉ after) :
    Recovery.value (String.ofList (before ++ part ++ after)) = .ok value := by
  have unopened : '{' ∉ before.dropWhile isBlank := fun mem =>
    precedes.unopened ((List.dropWhile_sublist isBlank).mem mem)
  have trailing : '}' ∉ trimEnd after := fun mem => by
    rw [trimEnd, List.mem_reverse] at mem
    exact unclosed (List.mem_reverse.mp ((List.dropWhile_sublist isBlank).mem mem))
  have found := braced?_amid braced unopened trailing
  -- The two attempts never disagree: the first one gives the same value or none.
  have whole : parse (before.dropWhile isBlank ++ part ++ trimEnd after) = .ok value ∨
      ∃ refusal, parse (before.dropWhile isBlank ++ part ++ trimEnd after) = .error refusal := by
    cases visible : before.dropWhile isBlank with
    | nil => exact parse_append read unlike (trimEnd after)
    | cons c prose => exact .inr (visible ▸ parse_amid precedes visible braced (trimEnd after))
  simp only [Recovery.value, String.toList_ofList, trim_amid braced]
  rcases whole with direct | ⟨refusal, refused⟩
  · simp only [direct]
  · simp only [refused, found, read]

/-- The text of an object, in whatever layout and with whatever its strings hold, is recovered from
amid prose as the object that the text is read as on its own. -/
theorem value_embedded (before text after : String) {members : List (String × Value)}
    (read : parse text.toList = .ok (.object members)) (braced : IsBraced text.toList)
    (precedes : MayPrecede before.toList) (unclosed : '}' ∉ after.toList) :
    Recovery.value (before ++ text ++ after) = .ok (.object members) := by
  have whole : before ++ text ++ after =
      String.ofList (before.toList ++ text.toList ++ after.toList) := by
    rw [String.ofList_append, String.ofList_append, String.ofList_toList, String.ofList_toList,
      String.ofList_toList]
  rw [whole]
  exact value_amid read nofun braced precedes unclosed

/-- An object whose strings hold braces, a quotation mark and a code fence. -/
def fencedMembers : List (String × Value) :=
  [("note \x7d", .text "``` \"\x7b"), ("list", .array [.number (.natural 1), .object [], .null])]

/-- The object comes out of a code fence with braces around it that tell nothing. -/
theorem value_fencedMembers :
    parse (String.ofList ((Value.object fencedMembers).indented 0)).toList =
      .ok (.object fencedMembers) ∧
    IsBraced (String.ofList ((Value.object fencedMembers).indented 0)).toList ∧
    MayPrecede "Closed \x7d:\n```json\n".toList ∧ '}' ∉ "\n``` and \x7b open".toList ∧
    Recovery.value ("Closed \x7d:\n```json\n" ++
      String.ofList ((Value.object fencedMembers).indented 0) ++ "\n``` and \x7b open") =
      .ok (.object fencedMembers) := by
  have read : parse (String.ofList ((Value.object fencedMembers).indented 0)).toList =
      .ok (.object fencedMembers) := by
    rw [String.toList_ofList]
    exact parse_indented (by decide)
  have braced : IsBraced (String.ofList ((Value.object fencedMembers).indented 0)).toList := by
    rw [String.toList_ofList]
    exact ⟨by decide, by decide⟩
  have precedes : MayPrecede "Closed \x7d:\n```json\n".toList := ⟨by decide, by simp [isBlank]⟩
  have unclosed : '}' ∉ "\n``` and \x7b open".toList := by decide
  exact ⟨read, braced, precedes, unclosed, value_embedded _ _ _ read braced precedes unclosed⟩

end PromptDiagram.Recovery
