import PromptDiagram.Proofs.Json.Grammar

/-!
# Strings in any spelling

A string is read as what it spells, however its characters are written, and a string that makes no
sense is still passed over to its end. The statements go from one written character to the next,
whatever stands behind it.
-/

namespace PromptDiagram.Json

open Text

variable {n : Nat} {c : Char} {text digits : List Char}

/-! ## Pieces of strings -/

/-- The letters that may stand behind a backslash are the ones that stand for something. -/
theorem mem_shortEscapes_iff {letter : Char} :
    (letter, c) ∈ shortEscapes ↔ escaped? letter = some c := by
  constructor
  · have each : ∀ escape ∈ shortEscapes, escaped? escape.1 = some escape.2 := by decide
    exact each (letter, c)
  · intro meant
    unfold escaped? at meant
    split_ifs at meant <;> cases meant <;> simp_all [shortEscapes]
    tauto

/-- A code unit that is wanted adds to a string what it makes with the one before it. -/
theorem readText_unit (spells : SpellsUnit n digits) (before : List Symbol) {high : Option Nat}
    {offset : Nat} {meant : Option Char} {place : Place}
    (closed : closeUnit (offset + 4) high n = .ok (meant, place)) (rest : List Symbol) :
    readText before (.unit high 4 0) offset (symbols digits ++ rest) =
      readText (meant.toList.map .char ++ before) place (offset + 4) rest := by
  cases spells with
  | mk first second third fourth =>
    cases meant <;> simp [readText, first, second, third, fourth, Nat.add_assoc, closed]

/-- The digits of a code unit are passed over. -/
theorem passText_unit (spells : SpellsUnit n digits) (offset : Nat) (rest : List Symbol) :
    passText (.unit none 4 0) offset (symbols digits ++ rest) =
      passText .plain (offset + 4) rest := by
  cases spells with
  | mk first second third fourth => simp [passText, first, second, third, fourth]

/-- A character is read in whatever way it is written. -/
theorem readText_spelt (spells : SpellsChar c text) (before : List Symbol) (offset : Nat)
    (rest : List Symbol) :
    ∃ stop, readText before .plain offset (symbols text ++ rest) =
      readText (.char c :: before) .plain stop rest := by
  cases spells with
  | plain mark slash control => exact ⟨_, by simp [readText, mark, slash, control]; rfl⟩
  | @letter letter _ known =>
    have meant := mem_shortEscapes_iff.mp known
    have unit : letter ≠ 'u' := by rintro rfl; cases meant
    exact ⟨_, by simp [readText, unit, meant]; rfl⟩
  | @unit n digits spells whole =>
    have low : isLow n = false := by simp [isLow]; omega
    have high : isHigh n = false := by simp [isHigh]; omega
    have closed : closeUnit (offset + 1 + 1 + 4) none n = .ok (some (Char.ofNat n), .plain) := by
      simp [closeUnit, low, high]
    exact ⟨_, by simp [readText, readText_unit spells before closed]; rfl⟩
  | @pair high low digits digits' spells fromHigh toHigh spells' fromLow toLow =>
    have first : isHigh high = true := by simp [isHigh]; omega
    have single : isLow high = false := by simp [isLow]; omega
    have second : isLow low = true := by simp [isLow]; omega
    have opened : closeUnit (offset + 1 + 1 + 4) none high = .ok (none, .pair high) := by
      simp [closeUnit, first, single]
    have closed : closeUnit (offset + 1 + 1 + 4 + 1 + 1 + 4) (some high) low =
        .ok (some (pairChar high low), .plain) := by
      simp [closeUnit, second]
    exact ⟨_, by
      simp [readText, readText_unit spells before opened, readText_unit spells' before closed]
      rfl⟩

/-- A piece of a string is passed over, whether it makes sense or not. -/
theorem passText_piece (piece : IsPiece text) (offset : Nat) (rest : List Symbol) :
    ∃ stop, passText .plain offset (symbols text ++ rest) = passText .plain stop rest := by
  cases piece with
  | plain mark slash control => exact ⟨_, by simp [passText, mark, slash, control]; rfl⟩
  | @letter letter _ known =>
    have meant := mem_shortEscapes_iff.mp known
    have unit : letter ≠ 'u' := by rintro rfl; cases meant
    exact ⟨_, by simp [passText, unit, meant]; rfl⟩
  | unit spells => exact ⟨_, by simp [passText, passText_unit spells]; rfl⟩

/-! ## Whole strings -/

/-- What was read of a string is its content once the string ends. -/
theorem finishText_symbols (mark : Nat) (content : List Char) :
    finishText mark (symbols content) = .ok (String.ofList content) := by
  have chars : (symbols content).dropWhile Symbol.isChar = [] := by
    induction content with
    | nil => rfl
    | cons c content ih => exact ih
  have kept : (symbols content).filterMap Symbol.char? = content := by
    simp [symbols, Function.comp_def, Symbol.char?]
  simp [finishText, chars, kept]

/-- The rest of a string is read up to its closing quotation mark. -/
theorem readText_pieces {content : List Char} {pieces : List (List Char)}
    (each : List.Forall₂ SpellsChar content pieces) (read : List Char) (offset : Nat)
    (rest : List Symbol) :
    ∃ stop, readText (symbols read).reverse .plain offset
      (symbols pieces.flatten ++ .char '"' :: rest) =
        .ok (String.ofList (read ++ content), stop) := by
  induction each generalizing read offset with
  | nil => exact ⟨⟨offset + 1, rest⟩, by simp [readText, finishText_symbols, Except.map]⟩
  | @cons c piece content pieces first others ih =>
    obtain ⟨next, begun⟩ := readText_spelt first (symbols read).reverse offset
      (symbols pieces.flatten ++ .char '"' :: rest)
    obtain ⟨stop, ended⟩ := ih (read ++ [c]) next
    refine ⟨stop, ?_⟩
    rw [List.flatten_cons, symbols_append, List.append_assoc, begun]
    simpa using ended

/-- A string is passed over up to its closing quotation mark. -/
theorem passText_pieces {pieces : List (List Char)} (each : ∀ piece ∈ pieces, IsPiece piece)
    (offset : Nat) (rest : List Symbol) :
    ∃ stop, passText .plain offset (symbols pieces.flatten ++ .char '"' :: rest) =
      .ok ⟨stop, rest⟩ := by
  induction pieces generalizing offset with
  | nil => exact ⟨offset + 1, by simp [passText]⟩
  | cons piece pieces ih =>
    obtain ⟨next, begun⟩ := passText_piece (each piece List.mem_cons_self) offset
      (symbols pieces.flatten ++ .char '"' :: rest)
    obtain ⟨stop, ended⟩ := ih (fun piece mem => each piece (List.mem_cons_of_mem _ mem)) next
    refine ⟨stop, ?_⟩
    rw [List.flatten_cons, symbols_append, List.append_assoc, begun, ended]

/-- The end of a string is found, whether it makes sense or not. -/
theorem readQuoted_of_isString {inside : List Char} (is : IsString ('"' :: inside)) (offset : Nat)
    (rest : List Symbol) :
    ∃ stop, readQuoted ⟨offset, symbols inside ++ rest⟩ =
      .ok (⟨(readText [] .plain offset (symbols inside ++ rest)).map Prod.fst, stop⟩,
        ⟨stop, rest⟩) := by
  obtain ⟨pieces, each, same⟩ := is
  obtain rfl : inside = pieces.flatten ++ ['"'] := by simpa using same
  obtain ⟨stop, passed⟩ := passText_pieces each offset rest
  exact ⟨stop, by simp [readQuoted, passed]⟩

/-- A string is read as what it spells. -/
theorem readQuoted_of_spellsString {s : String} {inside : List Char}
    (spells : SpellsString s ('"' :: inside)) (offset : Nat) (rest : List Symbol) :
    ∃ stop, readQuoted ⟨offset, symbols inside ++ rest⟩ = .ok (⟨.ok s, stop⟩, ⟨stop, rest⟩) := by
  obtain ⟨stop, found⟩ := readQuoted_of_isString spells.isString offset rest
  obtain ⟨pieces, each, same⟩ := spells
  obtain rfl : inside = pieces.flatten ++ ['"'] := by simpa using same
  obtain ⟨after, read⟩ := readText_pieces each [] offset rest
  have read : readText [] .plain offset (symbols (pieces.flatten ++ ['"']) ++ rest) =
      .ok (s, after) := by simpa using read
  exact ⟨stop, by rw [found, read]; rfl⟩

/-- A string stands behind an opening quotation mark. -/
theorem IsString.eq_cons (is : IsString text) : ∃ inside, text = '"' :: inside := by
  obtain ⟨pieces, -, rfl⟩ := is
  exact ⟨pieces.flatten ++ ['"'], rfl⟩

end PromptDiagram.Json
