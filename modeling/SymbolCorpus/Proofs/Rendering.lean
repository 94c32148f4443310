import SymbolCorpus.Corpus.Render
import SymbolCorpus.Proofs.Lines
import SymbolCorpus.Proofs.Segments

/-! # What a line shows

The letters of segmented names are the only thing a line makes itself. Everything else in it is
texts of the record, and so a newline in a line is one that a text of the record brought.
-/

namespace SymbolCorpus

open Identifier Text

theorem Text.mem_joinWith {x gap : Char} (h : x ≠ gap) (texts : List (List Char)) :
    x ∈ joinWith [gap] texts ↔ ∃ text ∈ texts, x ∈ text := by
  induction texts with
  | nil => simp
  | cons text texts ih =>
      cases texts with
      | nil => simp
      | cons next texts =>
          rw [joinWith_cons_cons, List.mem_append, List.mem_append, ih]
          simp [h]

theorem Text.trim_of_ends {text : List Char} (first : ∀ c, text.head? = some c → isBlank c = false)
    (last : ∀ c, text.getLast? = some c → isBlank c = false) : trim text = text := by
  have start : trimStart text = text := by
    cases text with
    | nil => rfl
    | cons c rest => exact List.dropWhile_cons_of_neg (by simp [first c rfl])
  have final : trimEnd text = text := by
    rw [trimEnd, List.reverse_eq_iff]
    cases reversed : text.reverse with
    | nil => rfl
    | cons c rest =>
        have ends : text.getLast? = some c := by rw [← List.head?_reverse, reversed]; rfl
        exact List.dropWhile_cons_of_neg (by simp [last c ends])
  rw [trim, start, final]

theorem mem_joinNonempty {x : Char} (h : x ≠ ' ') (texts : List (List Char)) :
    x ∈ joinNonempty texts ↔ ∃ text ∈ texts, x ∈ text := by
  rw [joinNonempty, mem_joinWith h]
  constructor
  · rintro ⟨text, member, inside⟩
    exact ⟨text, (List.mem_filter.mp member).1, inside⟩
  · rintro ⟨text, member, inside⟩
    refine ⟨text, List.mem_filter.mpr ⟨member, ?_⟩, inside⟩
    cases text with
    | nil => cases inside
    | cons => rfl

theorem not_mem_display {x : Char} (other : isAlphabetic x = false) (dot : x ≠ '\u0307')
    (gap : x ≠ ' ') (segmenter : Segmenter) (name : List Char) : x ∉ segmenter.display name := by
  rw [Segmenter.display, mem_joinWith gap]
  intro inToken
  have inLetters := List.mem_flatten.mpr inToken
  rw [Segmenter.flatten_segment] at inLetters
  obtain ⟨c, letter, inLower⟩ := List.mem_flatMap.mp inLetters
  exact not_mem_lowercase other dot (List.mem_filter.mp letter).2 inLower

theorem isAlphabetic_newline : isAlphabetic '\n' = false := by decide

theorem newline_not_mem_display (segmenter : Segmenter) (name : List Char) :
    '\n' ∉ segmenter.display name :=
  not_mem_display isAlphabetic_newline (by decide) (by decide) segmenter name

namespace InstructionText

/-- The texts of an instruction without white space around them. -/
def trimmedTexts (instruction : InstructionText) : List (List Char) :=
  instruction.map fun text => trim text.toList

/-- What a call shows as it is: its target, when that is a placeholder. -/
def placeholderTexts (instruction : InstructionText) : List (List Char) :=
  match instruction[2]? with
  | none => []
  | some text => if isPlaceholder (trim text.toList) then [trim text.toList] else []

/-- What the line of a native instruction shows as it is. -/
def nativeTexts (instruction : InstructionText) : List (List Char) :=
  if instruction.head? = some "call" then placeholderTexts instruction else trimmedTexts instruction

/-- What the line of an instruction of the low-level language shows as it is. -/
def lowLevelTexts (instruction : InstructionText) : List (List Char) :=
  match instruction.head? with
  | none => []
  | some head =>
      if head = "call" then placeholderTexts instruction
      else if "if".toList.isPrefixOf head.toList then instruction.map String.toList
      else trimmedTexts instruction

theorem newline_mem_renderCallee (segmenter : Segmenter) (instruction : InstructionText) :
    '\n' ∈ renderCallee segmenter instruction ↔
      ∃ text ∈ placeholderTexts instruction, '\n' ∈ text := by
  unfold renderCallee placeholderTexts
  cases instruction[2]? with
  | none => simp
  | some text =>
      dsimp only
      split
      · simp
      · simp [newline_not_mem_display]

theorem newline_mem_renderCall (segmenter : Segmenter) (instruction : InstructionText) :
    '\n' ∈ renderCall segmenter instruction ↔
      ∃ text ∈ placeholderTexts instruction, '\n' ∈ text := by
  rw [renderCall, mem_joinNonempty (by decide), ← newline_mem_renderCallee segmenter]
  simp

theorem newline_mem_renderPlain (instruction : InstructionText) :
    '\n' ∈ renderPlain instruction ↔ ∃ text ∈ trimmedTexts instruction, '\n' ∈ text :=
  mem_joinNonempty (by decide) _

theorem newline_mem_renderNative (segmenter : Segmenter) (instruction : InstructionText) :
    '\n' ∈ renderNative segmenter instruction ↔ ∃ text ∈ nativeTexts instruction, '\n' ∈ text := by
  unfold renderNative nativeTexts
  split
  · next call =>
      rw [if_pos call]
      exact newline_mem_renderCall segmenter instruction
  · next other =>
      rw [if_neg other]
      exact newline_mem_renderPlain instruction

theorem newline_mem_renderLowLevel (segmenter : Segmenter) (instruction : InstructionText) :
    '\n' ∈ renderLowLevel segmenter instruction ↔
      ∃ text ∈ lowLevelTexts instruction, '\n' ∈ text := by
  unfold renderLowLevel lowLevelTexts
  split
  · next call =>
      rw [call]
      exact newline_mem_renderCall segmenter instruction
  · next head other start =>
      rw [start]
      dsimp only
      rw [if_neg other]
      split
      · exact mem_joinWith (by decide) (instruction.map String.toList)
      · exact newline_mem_renderPlain instruction
  · next none =>
      rw [none]
      simp

end InstructionText

/-- The texts of a record that its line shows as they are. No segmenter has a part in them. -/
def Record.shownTexts (record : Record) : Representation → List (List Char)
  | .instructions => record.instructions.flatMap InstructionText.nativeTexts
  | .llil => record.llils.flatMap InstructionText.lowLevelTexts
  | .mlil => record.mlils.flatMap InstructionText.trimmedTexts
  | .pseudoCode => record.pseudoCode.map String.toList

theorem newline_mem_stream {render : InstructionText → List Char}
    {texts : InstructionText → List (List Char)}
    (h : ∀ instruction, '\n' ∈ render instruction ↔ ∃ text ∈ texts instruction, '\n' ∈ text)
    (stream : List InstructionText) :
    '\n' ∈ joinNonempty (stream.map render) ↔ ∃ text ∈ stream.flatMap texts, '\n' ∈ text := by
  rw [mem_joinNonempty (by decide)]
  constructor
  · rintro ⟨line, member, inLine⟩
    obtain ⟨instruction, inStream, rfl⟩ := List.mem_map.mp member
    obtain ⟨text, inTexts, inText⟩ := (h instruction).mp inLine
    exact ⟨text, List.mem_flatMap.mpr ⟨instruction, inStream, inTexts⟩, inText⟩
  · rintro ⟨text, member, inText⟩
    obtain ⟨instruction, inStream, inTexts⟩ := List.mem_flatMap.mp member
    have inLine := (h instruction).mpr ⟨text, inTexts, inText⟩
    exact ⟨render instruction, List.mem_map.mpr ⟨instruction, inStream, rfl⟩, inLine⟩

/-- A source has a newline in it exactly when a text that it shows as it is has one. -/
theorem Record.newline_mem_renderSource (segmenter : Segmenter) (record : Record)
    (representation : Representation) :
    '\n' ∈ record.renderSource segmenter representation ↔
      ∃ text ∈ record.shownTexts representation, '\n' ∈ text := by
  cases representation with
  | instructions => exact newline_mem_stream (InstructionText.newline_mem_renderNative segmenter) _
  | llil => exact newline_mem_stream (InstructionText.newline_mem_renderLowLevel segmenter) _
  | mlil => exact newline_mem_stream InstructionText.newline_mem_renderPlain _
  | pseudoCode => exact mem_joinWith (by decide) _

theorem Record.newline_not_mem_renderTarget (segmenter : Segmenter) (record : Record) :
    '\n' ∉ record.renderTarget segmenter :=
  newline_not_mem_display segmenter record.name.toList

end SymbolCorpus
