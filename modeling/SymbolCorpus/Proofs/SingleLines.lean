import SymbolCorpus.Proofs.Alignment
import SymbolCorpus.Proofs.GreedyChoice
import SymbolCorpus.Proofs.LineBreaks
import SymbolCorpus.Proofs.StoredValues

/-! # Tokens on single lines

Only white space and comments reach over the end of a line, and neither has a token. Every other rule
stops at a newline, and what is shown of a lexeme or of a joined literal is made of its own characters,
of letters and of fixed texts. So the pseudo-C of extracted records has no newline in it, and a
corpus that is built from such records has one line for each pair of that lane.
-/

namespace SymbolCorpus

namespace PseudoCode

open Text Identifier

/-! ## Lexemes -/

/-- The categories of lexemes that may go on in the next line. -/
def Category.IsOpen (category : Category) : Prop := category = .whitespace ∨ category = .comment

theorem newline_not_mem_words {text : List Char} (words : ∀ c ∈ text, isWord c = true) :
    '\n' ∉ text := by
  intro member
  have word := words '\n' member
  revert word
  decide

theorem newline_not_mem_callRule (dialect : Dialect) (text : List Char) :
    '\n' ∉ text.take ((callRule dialect).length text) := by
  cases dialect with
  | decompiler => exact (stopsAt_call isGap_newline (by decide)).not_mem text
  | analysisTool =>
      rcases Nat.eq_zero_or_pos (calledNameLength text) with none | applies
      · simp [callRule, none]
      · rw [callRule, take_calledName applies]
        exact newline_not_mem_words fun _ => List.mem_takeWhile_imp

theorem newline_not_mem_commonRules : ∀ rule ∈ commonRules, ¬rule.category.IsOpen →
    ∀ text : List Char, '\n' ∉ text.take (rule.length text) := by
  have numbers := numberRules_stop isGap_newline
  simp only [commonRules, List.forall_mem_cons, List.not_mem_nil, false_imp_iff, implies_true,
    and_true, reduceCtorEq, true_imp_iff, true_and] at numbers
  obtain ⟨scientific, float, hexadecimal, binary, octal, decimal⟩ := numbers
  have double : StopsAt '\n' (closedLength '"') := stopsAt_closed (by decide) (by decide)
  have single : StopsAt '\n' (closedLength '\'') := stopsAt_closed (by decide) (by decide)
  have operator : StopsAt '\n' (oneChar isOperator) := stopsAt_oneChar (by decide)
  have punctuation : StopsAt '\n' (oneChar isPunctuation) := stopsAt_oneChar (by decide)
  have other : StopsAt '\n' (oneChar fun c => !isBlank c && !isWord c) := stopsAt_oneChar (by decide)
  simp only [commonRules, List.forall_mem_cons, List.not_mem_nil, false_imp_iff, implies_true,
    and_true]
  simp only [Category.IsOpen, reduceCtorEq, or_self, or_true, or_false, not_true_eq_false,
    not_false_eq_true, false_imp_iff, true_imp_iff, true_and]
  exact ⟨double.not_mem, stopsAt_openString.not_mem, single.not_mem, scientific.not_mem,
    float.not_mem, hexadecimal.not_mem, binary.not_mem, octal.not_mem, decimal.not_mem,
    operator.not_mem, punctuation.not_mem, (stopsAt_name isGap_newline).not_mem, other.not_mem⟩

theorem newline_not_mem_lexeme {dialect : Dialect} {lexeme : Lexeme} (h : lexeme.IsTaken dialect)
    (closed : ¬lexeme.category.IsOpen) : '\n' ∉ lexeme.text := by
  obtain ⟨rest, length, found, taken⟩ := h
  obtain ⟨rule, member, category, rfl⟩ := exists_rule_of_firstMatch found
  rw [taken]
  rw [Dialect.rules_eq, List.mem_append, List.mem_cons] at member
  rcases member with early | rfl | common
  · exact (earlyRules_stop isGap_newline dialect rule early).not_mem rest
  · exact newline_not_mem_callRule dialect rest
  · exact newline_not_mem_commonRules rule common (category ▸ closed) rest

/-! ## Tokens -/

/-- What is shown of a fragment can have no newline in it. -/
def Fragment.IsUnbroken : Fragment → Prop
  | .literal text => '\n' ∉ text
  | .single lexeme => lexeme.category.IsOpen ∨ '\n' ∉ lexeme.text

theorem fragments_unbroken {lexemes : List Lexeme}
    (h : ∀ lexeme ∈ lexemes, lexeme.category.IsOpen ∨ '\n' ∉ lexeme.text) :
    ∀ part ∈ fragments lexemes, part.IsUnbroken := by
  induction lexemes with
  | nil => simp [fragments]
  | cons lexeme lexemes ih =>
      rw [List.forall_mem_cons] at h
      have later := ih h.2
      unfold fragments
      split
      · next string =>
          have line : '\n' ∉ lexeme.text := h.1.resolve_left (by simp [Category.IsOpen, string])
          split
          · next text rest joined =>
              rw [joined, List.forall_mem_cons] at later
              refine List.forall_mem_cons.mpr ⟨?_, later.2⟩
              simpa [Fragment.IsUnbroken, line] using later.1
          · exact List.forall_mem_cons.mpr ⟨line, later⟩
      · exact List.forall_mem_cons.mpr ⟨h.1, later⟩

theorem newline_not_mem_placeholders : '\n' ∉ functionPlaceholder ∧ '\n' ∉ numberPlaceholder ∧
    '\n' ∉ stringPlaceholder ∧ '\n' ∉ variablePlaceholder ∧ '\n' ∉ labelPlaceholder ∧
    '\n' ∉ conditionPlaceholder := by
  decide

theorem trim_subset (text : List Char) : trim text ⊆ text := by
  intro c member
  have inside := (List.dropWhile_sublist _).subset (List.mem_reverse.mp member)
  exact (List.dropWhile_sublist _).subset (List.mem_reverse.mp inside)

section Rendered

variable {segmenter : Segmenter} {options : TokenOptions} {defined : Option (List Char)}

theorem newline_not_mem_renderLiteral {text : List Char} (line : '\n' ∉ text) :
    '\n' ∉ renderLiteral options text := by
  have body : '\n' ∉ (literalBody text).map fun c => if c = '_' then ' ' else c := by
    intro member
    obtain ⟨c, inside, shown⟩ := List.mem_map.mp member
    split at shown
    · cases shown
    · exact line (List.mem_of_mem_drop ((List.dropLast_subset _) (shown ▸ inside)))
  unfold renderLiteral
  split
  · simp [body]
  · exact newline_not_mem_placeholders.2.2.1

theorem newline_not_mem_renderCall (text : List Char) : '\n' ∉ renderCall segmenter options text := by
  have function := newline_not_mem_placeholders.1
  have name := newline_not_mem_display segmenter (callParts text).1
  unfold renderCall
  dsimp only
  split
  · exact function
  · split
    · simp [function]
    · split
      · split
        · decide
        · simp [name]
      · exact name

theorem newline_not_mem_renderFunction (name : List Char) :
    '\n' ∉ (renderFunction segmenter options defined name).1 := by
  have function := newline_not_mem_placeholders.1
  unfold renderFunction
  split
  · exact function
  · split
    · exact function
    · exact newline_not_mem_display segmenter name

theorem newline_not_mem_renderLexeme {lexeme : Lexeme} {token : List Char}
    {definition : Option (List Char)} (unbroken : (Fragment.single lexeme).IsUnbroken)
    (shown : renderLexeme segmenter options defined lexeme = .ok (some token, definition)) :
    '\n' ∉ token := by
  obtain ⟨category, text, offset⟩ := lexeme
  obtain ⟨dialect, keepStrings, keepCalls⟩ := options
  obtain ⟨function, number, -, synthetic, label, condition⟩ := newline_not_mem_placeholders
  cases category
  case string | whitespace | comment | scopeOperator => cases shown
  all_goals
    have line : '\n' ∉ text := unbroken.resolve_left (by simp [Category.IsOpen])
  case placeholder =>
    cases shown
    exact line
  case number =>
    cases shown
    split
    · exact line
    · exact number
  case keyword | keywordType | operator | punctuation | other =>
    cases shown
    exact fun member => line (trim_subset text member)
  case nameFunction =>
    cases dialect with
    | decompiler =>
        cases shown
        exact newline_not_mem_renderCall text
    | analysisTool =>
        cases shown
        exact newline_not_mem_renderFunction text
  case identifier =>
    cases dialect <;> cases shown <;> split
    · exact line
    · exact newline_not_mem_display segmenter text
    · exact function
    · exact newline_not_mem_display segmenter text
  case nameVariable =>
    cases dialect <;> cases shown
    exact synthetic
  case nameRegister =>
    cases dialect <;> cases shown
    exact fun member => line ((List.takeWhile_sublist _).subset member)
  case nameLabel =>
    cases dialect <;> cases shown
    exact label
  case nameCondition =>
    cases dialect <;> cases shown
    exact condition

theorem newline_not_mem_keepToken {token : Option (List Char)} {tokens : List (List Char)}
    (here : ∀ text, token = some text → '\n' ∉ text) (later : ∀ text ∈ tokens, '\n' ∉ text) :
    ∀ text ∈ keepToken token tokens, '\n' ∉ text := by
  unfold keepToken
  split
  · next text =>
      split
      · exact later
      · exact List.forall_mem_cons.mpr ⟨here text rfl, later⟩
  · exact later

theorem newline_not_mem_renderFragments {parts : List Fragment} {tokens : List (List Char)}
    (unbroken : ∀ part ∈ parts, part.IsUnbroken)
    (rendered : renderFragments segmenter options defined parts = .ok tokens) :
    ∀ token ∈ tokens, '\n' ∉ token := by
  induction parts generalizing defined tokens with
  | nil =>
      cases rendered
      simp
  | cons part parts ih =>
      rw [List.forall_mem_cons] at unbroken
      cases part with
      | literal text =>
          rw [renderFragments_literal] at rendered
          obtain ⟨later, run, rfl⟩ := map_eq_ok rendered
          exact List.forall_mem_cons.mpr
            ⟨newline_not_mem_renderLiteral unbroken.1, ih unbroken.2 run⟩
      | single lexeme =>
          obtain ⟨token, definition, later, shown, run, rfl⟩ := renderFragments_single_inv rendered
          refine newline_not_mem_keepToken (fun text same => ?_) (ih unbroken.2 run)
          subst same
          exact newline_not_mem_renderLexeme unbroken.1 shown

end Rendered

/-- No token has a newline in it. -/
theorem newline_not_mem_tokens {segmenter : Segmenter} {options : TokenOptions} {text : List Char}
    {tokens : List (List Char)} (run : tokenize segmenter options text = .ok tokens) :
    ∀ token ∈ tokens, '\n' ∉ token := by
  obtain ⟨lexemes, again, lexed, rendered⟩ := exists_rendering segmenter options text
  rw [tokenize_of_lex lexed, rendered, Except.ok.injEq] at run
  subst run
  refine newline_not_mem_renderFragments (fragments_unbroken fun lexeme member => ?_) rendered
  rw [Classical.or_iff_not_imp_left]
  exact newline_not_mem_lexeme (isTaken_of_mem_lex lexed lexeme member)

end PseudoCode

open Identifier PseudoCode

/-! ## Extracted records -/

/-- The record was loaded from the file that an extraction left. -/
inductive Record.IsExtracted (record : Record) : Prop where
  | loaded {extractor : Extractor} {disk after : Disk} {binary output : String}
      {functions skipped : Nat} {records : RecordMap} :
      extractor.extract disk binary = (after, .ok (.extracted functions skipped output)) →
      after.loadRecords output = .ok records → record ∈ records.records → IsExtracted record

theorem ExtractionContext.exists_tokens_of_build? {context : ExtractionContext}
    {function : DumpFunction} {name text : String} {record : Record}
    (h : context.build? function name text = some record) :
    ∃ source tokens, tokenize context.segmenter context.settings.tokenOptions source = .ok tokens ∧
      record.pseudoCode = tokens.map String.ofList := by
  unfold build? at h
  dsimp only at h
  split at h
  · cases h
  · next tokens run => exact ⟨_, tokens, run, (congrArg Record.pseudoCode (Option.some.inj h)).symm⟩

theorem Record.IsExtracted.exists_tokens {record : Record} (h : record.IsExtracted) :
    ∃ segmenter options text tokens, tokenize segmenter options text = .ok tokens ∧
      record.pseudoCode = tokens.map String.ofList := by
  obtain ⟨extracted, loaded, member⟩ := h
  obtain ⟨entries, dump, textSection, records, -, -, again, same, -⟩ :=
    Extractor.loadRecords_of_extracted extracted
  rw [loaded, Except.ok.injEq] at again
  subst again
  obtain ⟨⟨key, record⟩, stored, rfl⟩ := List.mem_map.mp member
  rw [Std.TreeMap.mem_toList_iff_getElem?_eq_some, same.getElem?_eq] at stored
  obtain ⟨function, records⟩ := exists_function_of_selected stored
  obtain ⟨text, -, built⟩ := records.built
  exact ⟨_, _, ExtractionContext.exists_tokens_of_build? built⟩

theorem Record.IsExtracted.newline_not_mem {record : Record} (h : record.IsExtracted) :
    ∀ text ∈ record.shownTexts .pseudoCode, '\n' ∉ text := by
  obtain ⟨segmenter, options, text, tokens, run, same⟩ := h.exists_tokens
  intro shown member
  rw [shownTexts, same, List.map_map] at member
  obtain ⟨token, inTokens, rfl⟩ := List.mem_map.mp member
  rw [Function.comp_apply, String.toList_ofList]
  exact newline_not_mem_tokens run token inTokens

/-! ## Corpora -/

/-- Both files of a representation have one newline for each pair. -/
structure LinePerPair (disk : Disk) (files : CorpusFiles) (pairs : List CorpusPair) : Prop where
  sources : ∃ text, disk.readText files.sourcePath = .ok text ∧ text.count '\n' = pairs.length
  targets : ∃ text, disk.readText files.targetPath = .ok text ∧ text.count '\n' = pairs.length

section Built

open CorpusBuilder

variable {segmenter : Segmenter} {dedup : Bool} {additions : List Addition}

theorem newline_not_mem_pseudoCode
    (extracted : ∀ record ∈ additions.flatMap Addition.records, record.IsExtracted) :
    ∀ pair ∈ (build segmenter dedup additions).pairs .pseudoCode, '\n' ∉ pair.source :=
  (newline_not_mem_sources_iff .pseudoCode).mpr fun record added _ =>
    (extracted record added).newline_not_mem

theorem linePerPair_of_written {builder : CorpusBuilder} (even : builder.IsEven)
    {before after : Disk} {folder split : String} {stats : List CorpusFiles}
    (representation : Representation)
    (written : builder.write before folder split = (after, .ok stats))
    (sources : ∀ pair ∈ builder.pairs representation, '\n' ∉ pair.source)
    (targets : ∀ pair ∈ builder.pairs representation, '\n' ∉ pair.target) :
    LinePerPair after (builder.filesOf folder split representation)
      (builder.pairs representation) := by
  have targetText := readText_targetPath written representation
  have targetCount := (count_textOfLines _).2.mpr (List.forall_mem_map.mpr targets)
  rw [List.length_map, ← even.targets_eq] at targetCount
  refine ⟨?_, _, targetText, targetCount⟩
  by_cases same : after.locate (builder.filesOf folder split representation).sourcePath =
      after.locate (builder.filesOf folder split representation).targetPath
  · exact ⟨_, (Disk.readText_congr same).trans targetText, targetCount⟩
  · have sourceCount := (count_textOfLines _).2.mpr (List.forall_mem_map.mpr sources)
    rw [List.length_map, ← even.sources_eq] at sourceCount
    exact ⟨_, readText_sourcePath written representation same, sourceCount⟩

/-- No token and no target has a newline in it, whatever the segmenter. A corpus of extracted records
    has one line for each pair of its pseudo-C, in both files, and these are aligned when they are
    two. -/
theorem tokens_and_targets_unbroken (segmenter : Segmenter) :
    (∀ options text, ∃ tokens, tokenize segmenter options text = .ok tokens ∧
      ∀ token ∈ tokens, '\n' ∉ token) ∧
    (∀ record : Record, '\n' ∉ record.renderTarget segmenter) ∧
    ∀ dedup additions, (∀ record ∈ additions.flatMap Addition.records, record.IsExtracted) →
      (∀ pair ∈ (build segmenter dedup additions).pairs .pseudoCode,
        '\n' ∉ pair.source ∧ '\n' ∉ pair.target) ∧
      ∀ before folder split after stats,
        (build segmenter dedup additions).write before folder split = (after, .ok stats) →
        ∃ files ∈ stats, files.representation = .pseudoCode ∧
          LinePerPair after files ((build segmenter dedup additions).pairs .pseudoCode) ∧
          ('/' ∉ split.toList → after.locate files.sourcePath ≠ after.locate files.targetPath) ∧
          (after.locate files.sourcePath ≠ after.locate files.targetPath →
            Aligned after files ((build segmenter dedup additions).pairs .pseudoCode)) := by
  refine ⟨fun options text => ?_, fun record => record.newline_not_mem_renderTarget segmenter, ?_⟩
  · obtain ⟨lexemes, tokens, lexed, rendered⟩ := exists_rendering segmenter options text
    have run := (tokenize_of_lex lexed).trans rendered
    exact ⟨tokens, run, newline_not_mem_tokens run⟩
  · intro dedup additions extracted
    have sources := @newline_not_mem_pseudoCode segmenter dedup additions extracted
    have targets := fun pair => @newline_not_mem_target segmenter dedup additions .pseudoCode pair
    refine ⟨fun pair member => ⟨sources pair member, targets pair member⟩, ?_⟩
    intro before folder split after stats written
    obtain ⟨rfl, -⟩ := write_eq_ok written
    have even := isEven_build segmenter dedup additions
    have targetText := readText_targetPath written .pseudoCode
    have sourceText := readText_sourcePath written .pseudoCode
    rw [even.targets_eq] at targetText
    rw [even.sources_eq] at sourceText
    refine ⟨_, List.mem_map_of_mem (a := Representation.pseudoCode) (by decide), rfl,
      linePerPair_of_written even .pseudoCode written sources targets,
      locate_ne_of_plain written .pseudoCode, fun apart => ?_⟩
    exact (aligned_iff_of_readText (pairs_filesOf folder split .pseudoCode) targets targetText
      sourceText).mpr ⟨sources, fun same => absurd same apart⟩

end Built

/-- The dump of a function whose pseudo-C has a comment and literals in several lines. -/
def manyLinesDump : Dump :=
  ⟨some ⟨0, 50⟩, [], [⟨⟨0, 9⟩, false, ⟨[], [], []⟩, some "x /* a\n b */ =\n \"c\"\"d\";"⟩]⟩

def manyLinesDisk : Disk :=
  .ofBinary "prog" "\x7b\"alpha\": [0, 9]\x7d"
    "[[0, 50], [], [[0, 9, false, [], [], [], \"x /* a\\n b */ =\\n \\\"c\\\"\\\"d\\\";\"]]]"

theorem reads_manyLinesDisk :
    Extractor.standard.Reads manyLinesDisk "prog" [("alpha", 0)] manyLinesDump :=
  Extractor.reads_ofBinary (by decide +kernel) (by decide +kernel)

/-- Its record, with the two literals joined. -/
def manyLinesRecord : Record := ⟨0, "0_9", "alpha", [], [], [], ["x", "=", "\" c\"\"d \"", ";"]⟩

theorem select_manyLinesDump :
    (Extractor.standard.select (.ofEntries Extractor.standard.nameFilter [("alpha", 0)]) ⟨0, 50⟩
      manyLinesDump).records = [manyLinesRecord] := by
  decide +kernel

theorem extract_manyLinesDisk :
    (Extractor.standard.extract manyLinesDisk "prog").2.toOption =
      some (.extracted 1 0 "prog.json") := by
  decide +kernel

theorem write_manyLinesRecord :
    ((CorpusBuilder.build .plain false [.one manyLinesRecord]).write ⟨.empty, []⟩ "out"
      "train").2.toOption.isSome = true := by
  decide +kernel

/-- The corpus of the records that are loaded has one line in each file of the pseudo-C. -/
theorem linePerPair_manyLines :
    ∃ after loaded final stats,
      Extractor.standard.extract manyLinesDisk "prog" =
        (after, .ok (.extracted 1 0 "prog.json")) ∧
      after.loadRecords "prog.json" = .ok loaded ∧ loaded.records = [manyLinesRecord] ∧
      (CorpusBuilder.build .plain false [.all loaded]).write ⟨.empty, []⟩ "out" "train" =
        (final, .ok stats) ∧
      ∃ files ∈ stats, files.representation = .pseudoCode ∧ LinePerPair final files
        ((CorpusBuilder.build .plain false [.all loaded]).pairs .pseudoCode) := by
  obtain ⟨after, run⟩ :=
    Extractor.exists_extract_of_ending (eq_ok_of_toOption extract_manyLinesDisk)
  obtain ⟨loaded, read, same, -⟩ := reads_manyLinesDisk.loadRecords rfl run
  have records : loaded.records = [manyLinesRecord] := by
    rw [RecordMap.records, same.toList_eq]
    exact select_manyLinesDump
  have corpus : CorpusBuilder.build .plain false [.all loaded] =
      CorpusBuilder.build .plain false [.one manyLinesRecord] := by
    rw [CorpusBuilder.build_eq, CorpusBuilder.build_eq]
    simp [Addition.records, records]
  obtain ⟨stats, wrote⟩ := Option.isSome_iff_exists.mp write_manyLinesRecord
  rw [← corpus] at wrote
  have written : (CorpusBuilder.build .plain false [.all loaded]).write ⟨.empty, []⟩ "out" "train" =
      (_, .ok stats) := Prod.ext rfl (eq_ok_of_toOption wrote)
  obtain ⟨-, -, corpora⟩ := tokens_and_targets_unbroken .plain
  obtain ⟨-, files⟩ := corpora false [.all loaded] fun record member =>
    .loaded run read (by simpa [Addition.records] using member)
  obtain ⟨files, member, named, lines, -⟩ := files _ _ _ _ _ written
  exact ⟨after, loaded, _, stats, run, read, records, written, files, member, named, lines⟩

end SymbolCorpus
