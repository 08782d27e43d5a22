import PromptDiagram.Proofs.Json.Spelling
import PromptDiagram.Proofs.Text.Runs

/-!
# Strings in quotation marks

What is written between quotation marks is read back, whatever characters it has. A character is
written in one of three ways, which are among the ways to spell it.
-/

namespace PromptDiagram.Json

open Text

/-- Hexadecimal digits are read as what they were written for. -/
theorem hexValue?_digitChar : ∀ digit < 16, hexValue? (Nat.digitChar digit) = some digit := by
  decide

/-- The digits of a control character's code unit: two zeros and two digits that tell which. -/
theorem controlDigits : ∀ n < 32,
    List.replicate (4 - (hexadecimal n).length) '0' ++ hexadecimal n =
      ['0', '0', Nat.digitChar (n / 16), Nat.digitChar (n % 16)] := by
  decide

/-- A way to write a character between quotation marks: as it is, as a letter behind a backslash, or
as a code unit. -/
inductive Writes (c : Char) : List Char → Prop where
  | plain : c ≠ '"' → c ≠ '\\' → ¬ c.toNat < 32 → Writes c [c]
  | letter {letter : Char} : letter ≠ 'u' → escaped? letter = some c → Writes c ['\\', letter]
  | unit : c.toNat < 32 →
      Writes c
        ['\\', 'u', '0', '0', Nat.digitChar (c.toNat / 16), Nat.digitChar (c.toNat % 16)]

/-- Every character is written in one of these ways. -/
theorem writes_escapeChar (c : Char) : Writes c (escapeChar c) := by
  have fromCode : ∀ {n}, c.toNat = n → some (Char.ofNat n) = some c := by
    rintro _ rfl
    rw [Char.ofNat_toNat]
  unfold escapeChar
  split
  · exact .letter (by decide) (by simp_all [escaped?])
  split
  · exact .letter (by decide) (by simp_all [escaped?])
  split
  · exact .letter (by decide) (by simp_all [escaped?])
  split
  · exact .letter (by decide) (by simp_all [escaped?])
  split
  · exact .letter (by decide) (by simp_all [escaped?])
  split
  · exact .letter (by decide) (fromCode ‹_›)
  split
  · exact .letter (by decide) (fromCode ‹_›)
  split
  · rename_i control
    have digits := controlDigits c.toNat control
    simp only [List.append_assoc, digits]
    exact .unit control
  · exact .plain (by simp_all) (by simp_all) ‹_›

/-- What the writer writes for a character spells it. -/
theorem Writes.spells {c : Char} {written : List Char} (writes : Writes c written) :
    SpellsChar c written := by
  cases writes with
  | plain mark slash control => exact .plain mark slash control
  | letter _ meant => exact .letter (mem_shortEscapes_iff.mpr meant)
  | unit control =>
    have zero : hexValue? '0' = some 0 := rfl
    have first := hexValue?_digitChar (c.toNat / 16) (by omega)
    have second := hexValue?_digitChar (c.toNat % 16) (by omega)
    have whole : 16 * (16 * (16 * 0 + 0) + c.toNat / 16) + c.toNat % 16 = c.toNat := by omega
    have spells := SpellsChar.unit (.mk zero zero first second) (.inl (by omega))
    rwa [whole, Char.ofNat_toNat] at spells

/-- What is written in quotation marks spells a string. -/
theorem spellsString_quote (s : String) : SpellsString s (quote s) := by
  refine ⟨s.toList.map escapeChar, ?_, by simp [quote, List.flatMap_def]⟩
  rw [List.forall₂_map_right_iff, List.forall₂_same]
  exact fun c _ => (writes_escapeChar c).spells

/-- A string that is written behind an opening quotation mark is read as it was. -/
theorem readQuoted_quoted (s : String) (offset : Nat) (rest : List Symbol) :
    ∃ stop, readQuoted ⟨offset, symbols (s.toList.flatMap escapeChar) ++ .char '"' :: rest⟩ =
      .ok (⟨.ok s, stop⟩, ⟨stop, rest⟩) := by
  obtain ⟨stop, read⟩ := readQuoted_of_spellsString (spellsString_quote s) offset rest
  exact ⟨stop, by simpa using read⟩

end PromptDiagram.Json
