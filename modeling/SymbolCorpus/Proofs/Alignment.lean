import SymbolCorpus.Proofs.CorpusPaths
import SymbolCorpus.Proofs.Lanes
import SymbolCorpus.Proofs.Rendering
import SymbolCorpus.Proofs.Writes

/-! # Alignment of corpus files

What is read back from the files of a corpus once all of them are written. The files of different
representations never get in each other's way. The two files of one representation do when the split
leads both paths to one place, and then the targets are what stays there.
-/

namespace SymbolCorpus

open Text

/-- Two files hold the sources and the targets of pairs line for line. -/
structure Aligned (disk : Disk) (files : CorpusFiles) (pairs : List CorpusPair) : Prop where
  sources : disk.HoldsLines files.sourcePath files.pairs (pairs.map (·.source))
  targets : disk.HoldsLines files.targetPath files.pairs (pairs.map (·.target))

/-! ## Which file is where -/

theorem Disk.readText_congr {disk : Disk} {path other : String}
    (h : disk.locate path = disk.locate other) : disk.readText path = disk.readText other := by
  unfold Disk.readText Disk.read
  rw [h]

namespace CorpusBuilder

variable {builder : CorpusBuilder} {before after : Disk} {folder split : String}

theorem write_eq_ok {stats : List CorpusFiles}
    (h : builder.write before folder split = (after, .ok stats)) :
    stats = Representation.all.map (builder.filesOf folder split) ∧
      ∃ made, before.makeFolders folder = .ok made ∧
        made.writeTexts (Representation.all.flatMap (builder.textsOf folder split)) =
          (after, none) := by
  unfold write at h
  split at h
  · cases h
  · next made folders =>
      split at h
      · cases h
      · next last run =>
          cases h
          exact ⟨rfl, made, folders, run⟩

/-- The text of the sources of a representation, with its path. -/
def sourceText (builder : CorpusBuilder) (folder split : String) (representation : Representation) :
    String × List Char :=
  ((builder.filesOf folder split representation).sourcePath,
    textOfLines (builder.sources representation))

/-- The text of the targets of a representation, with its path. -/
def targetText (builder : CorpusBuilder) (folder split : String) (representation : Representation) :
    String × List Char :=
  ((builder.filesOf folder split representation).targetPath,
    textOfLines (builder.targets representation))

theorem textsOf_eq (builder : CorpusBuilder) (folder split : String)
    (representation : Representation) :
    builder.textsOf folder split representation =
      [sourceText builder folder split representation,
        targetText builder folder split representation] := rfl

theorem path_of_mem_textsOf {representation : Representation} {text : String × List Char}
    (h : text ∈ builder.textsOf folder split representation) :
    ∃ side, text.1 = corpusPath folder side split representation := by
  simp only [textsOf, filesOf, List.mem_cons, List.not_mem_nil, or_false] at h
  rcases h with rfl | rfl
  · exact ⟨"src", rfl⟩
  · exact ⟨"tgt", rfl⟩

theorem locate_ne_of_ne {made : Disk} {texts : List (String × List Char)}
    (run : made.writeTexts texts = (after, none)) {first second : Representation}
    (unlike : first ≠ second) {text other : String × List Char} (member : text ∈ texts)
    (memberOther : other ∈ texts) (h : text ∈ builder.textsOf folder split first)
    (h' : other ∈ builder.textsOf folder split second) :
    after.locate text.1 ≠ after.locate other.1 := by
  obtain ⟨place, located, last⟩ := (Disk.writeTexts_follows run).2 text member
  obtain ⟨placeOther, locatedOther, lastOther⟩ := (Disk.writeTexts_follows run).2 other memberOther
  obtain ⟨side, path⟩ := path_of_mem_textsOf h
  obtain ⟨sideOther, pathOther⟩ := path_of_mem_textsOf h'
  obtain ⟨name, named, ends⟩ := getLast?_parts_corpusPath folder side split first
  obtain ⟨nameOther, namedOther, endsOther⟩ :=
    getLast?_parts_corpusPath folder sideOther split second
  rw [path, RawPath.getLast?_parts_ofText, named] at last
  rw [pathOther, RawPath.getLast?_parts_ofText, namedOther] at lastOther
  intro same
  rw [located, locatedOther] at same
  cases same
  obtain rfl := RawText.ofText_injective (Option.some.inj (last.symm.trans lastOther))
  exact unlike (fileEnd_injective ends endsOther)

theorem exists_all_eq (representation : Representation) :
    ∃ earlier later, Representation.all = earlier ++ representation :: later ∧
      representation ∉ later := by
  cases representation with
  | instructions => exact ⟨[], [.llil, .mlil, .pseudoCode], rfl, by decide⟩
  | llil => exact ⟨[.instructions], [.mlil, .pseudoCode], rfl, by decide⟩
  | mlil => exact ⟨[.instructions, .llil], [.pseudoCode], rfl, by decide⟩
  | pseudoCode => exact ⟨[.instructions, .llil, .mlil], [], rfl, by decide⟩

section Written

variable {stats : List CorpusFiles} (written : builder.write before folder split = (after, .ok stats))
  (representation : Representation)

include written

/-- Both texts of a representation were written, the targets after the sources, and what was written
    later went elsewhere. -/
theorem exists_run :
    ∃ (made : Disk) (earlier later : List (String × List Char)),
      made.writeTexts (earlier ++ builder.textsOf folder split representation ++ later) =
        (after, none) ∧
      ∀ text ∈ builder.textsOf folder split representation, ∀ other ∈ later,
        after.locate other.1 ≠ after.locate text.1 := by
  obtain ⟨-, made, -, run⟩ := write_eq_ok written
  obtain ⟨earlier, later, all, others⟩ := exists_all_eq representation
  refine ⟨made, earlier.flatMap (builder.textsOf folder split),
    later.flatMap (builder.textsOf folder split), ?_, ?_⟩
  · rw [all, List.flatMap_append, List.flatMap_cons, ← List.append_assoc] at run
    exact run
  · intro text here other there
    obtain ⟨second, inLater, inTexts⟩ := List.mem_flatMap.mp there
    have unlike : second ≠ representation := fun same => others (same ▸ inLater)
    apply locate_ne_of_ne run unlike _ _ inTexts here
    · rw [all, List.flatMap_append, List.flatMap_cons]
      simp [there]
    · rw [all, List.flatMap_append, List.flatMap_cons]
      simp [here]

theorem readText_targetPath :
    after.readText (builder.filesOf folder split representation).targetPath =
      .ok (textOfLines (builder.targets representation)) := by
  obtain ⟨made, earlier, later, run, elsewhere⟩ := exists_run written representation
  rw [textsOf_eq] at run elsewhere
  simp only [List.append_assoc, List.cons_append, List.nil_append] at run
  rw [List.append_cons] at run
  exact Disk.readText_of_writeTexts run
    (elsewhere (targetText builder folder split representation) (by simp))

theorem readText_sourcePath
    (apart : after.locate (builder.filesOf folder split representation).sourcePath ≠
      after.locate (builder.filesOf folder split representation).targetPath) :
    after.readText (builder.filesOf folder split representation).sourcePath =
      .ok (textOfLines (builder.sources representation)) := by
  obtain ⟨made, earlier, later, run, elsewhere⟩ := exists_run written representation
  rw [textsOf_eq] at run elsewhere
  simp only [List.append_assoc, List.cons_append, List.nil_append] at run
  apply Disk.readText_of_writeTexts run
  intro other member
  rcases List.mem_cons.mp member with rfl | there
  · exact Ne.symm apart
  · exact elsewhere (sourceText builder folder split representation) (by simp) other there

theorem locate_ne_of_plain (plain : '/' ∉ split.toList) :
    after.locate (builder.filesOf folder split representation).sourcePath ≠
      after.locate (builder.filesOf folder split representation).targetPath := by
  obtain ⟨made, earlier, later, run, -⟩ := exists_run written representation
  have located := (Disk.writeTexts_follows run).2
  rw [textsOf_eq] at located
  obtain ⟨place, source, last⟩ := located (sourceText builder folder split representation) (by simp)
  obtain ⟨placeOther, target, lastOther⟩ :=
    located (targetText builder folder split representation) (by simp)
  intro same
  have places : after.locate (sourceText builder folder split representation).1 =
      after.locate (targetText builder folder split representation).1 := same
  rw [source, target] at places
  cases places
  have names := last.symm.trans lastOther
  unfold sourceText targetText filesOf at names
  dsimp only at names
  rw [RawPath.getLast?_parts_ofText, RawPath.getLast?_parts_ofText,
    getLast?_parts_corpusPath_of_plain folder representation (by decide) (by decide) plain,
    getLast?_parts_corpusPath_of_plain folder representation (by decide) (by decide) plain] at names
  have first := congrArg (fun name => name.toList.head?)
    (RawText.ofText_injective (Option.some.inj names))
  simp at first

end Written

end CorpusBuilder

/-! ## Alignment -/

/-- Files whose targets were written last are aligned when no source has a newline in it and the
    targets do not take the place of sources unlike them. -/
theorem aligned_iff_of_readText {disk : Disk} {files : CorpusFiles} {pairs : List CorpusPair}
    (count : files.pairs = pairs.length) (plain : ∀ pair ∈ pairs, '\n' ∉ pair.target)
    (targets : disk.readText files.targetPath = .ok (textOfLines (pairs.map (·.target))))
    (sources : disk.locate files.sourcePath ≠ disk.locate files.targetPath →
      disk.readText files.sourcePath = .ok (textOfLines (pairs.map (·.source)))) :
    Aligned disk files pairs ↔ (∀ pair ∈ pairs, '\n' ∉ pair.source) ∧
      (disk.locate files.sourcePath = disk.locate files.targetPath →
        ∀ pair ∈ pairs, pair.source = pair.target) := by
  have sourceCount : files.pairs = (pairs.map (·.source)).length := by rw [count, List.length_map]
  have targetCount : files.pairs = (pairs.map (·.target)).length := by rw [count, List.length_map]
  have plainLines : ∀ line ∈ pairs.map (·.target), '\n' ∉ line :=
    List.forall_mem_map.mpr plain
  have holdsTargets : disk.HoldsLines files.targetPath files.pairs (pairs.map (·.target)) := by
    rw [targetCount, Disk.holdsLines_iff targets rfl]
    exact ⟨rfl, plainLines⟩
  by_cases same : disk.locate files.sourcePath = disk.locate files.targetPath
  · -- One file holds the targets, and they are what is read back for the sources.
    have read := (Disk.readText_congr same).trans targets
    have lengths : (pairs.map (·.source)).length = (pairs.map (·.target)).length := by simp
    have holds := Disk.holdsLines_iff read lengths
    rw [← sourceCount] at holds
    constructor
    · intro aligned
      obtain ⟨equal, -⟩ := holds.mp aligned.sources
      have pairwise : ∀ pair ∈ pairs, pair.source = pair.target := List.map_inj_left.mp equal
      refine ⟨fun pair member => ?_, fun _ => pairwise⟩
      rw [pairwise pair member]
      exact plain pair member
    · rintro ⟨-, equal⟩
      exact ⟨holds.mpr ⟨List.map_inj_left.mpr (equal same), plainLines⟩, holdsTargets⟩
  · have holds := Disk.holdsLines_iff (sources same) rfl
    rw [← sourceCount] at holds
    constructor
    · intro aligned
      have unbroken := (holds.mp aligned.sources).2
      refine ⟨fun pair member => ?_, fun equal => absurd equal same⟩
      exact unbroken _ (List.mem_map.mpr ⟨pair, member, rfl⟩)
    · rintro ⟨unbroken, -⟩
      exact ⟨holds.mpr ⟨rfl, List.forall_mem_map.mpr unbroken⟩, holdsTargets⟩

section Built

open CorpusBuilder

variable {segmenter : Identifier.Segmenter} {dedup : Bool} {additions : List Addition}

theorem newline_not_mem_target {representation : Representation} {pair : CorpusPair}
    (h : pair ∈ (build segmenter dedup additions).pairs representation) : '\n' ∉ pair.target := by
  obtain ⟨record, -, rfl⟩ := mem_pairs_build h
  exact record.newline_not_mem_renderTarget segmenter

/-- A lane has a source with a newline in it when it has the pair of a record that shows one. -/
theorem newline_not_mem_sources_iff (representation : Representation) :
    (∀ pair ∈ (build segmenter dedup additions).pairs representation, '\n' ∉ pair.source) ↔
      ∀ record ∈ additions.flatMap Addition.records,
        record.toPair segmenter representation ∈
            (build segmenter dedup additions).pairs representation →
          ∀ text ∈ record.shownTexts representation, '\n' ∉ text := by
  constructor
  · intro unbroken record added kept text shown newline
    apply unbroken _ kept
    exact (record.newline_mem_renderSource segmenter representation).mpr ⟨text, shown, newline⟩
  · intro unbroken pair kept newline
    obtain ⟨record, added, rfl⟩ := mem_pairs_build kept
    obtain ⟨text, shown, inText⟩ :=
      (record.newline_mem_renderSource segmenter representation).mp newline
    exact unbroken record added kept text shown inText

/-- The condition under which the files of a corpus are aligned: no record that the lane keeps shows a
    text with a newline in it, and the targets do not take the place of sources unlike them. -/
structure Alignable (segmenter : Identifier.Segmenter) (records : List Record) (disk : Disk)
    (files : CorpusFiles) (pairs : List CorpusPair) : Prop where
  unbroken : ∀ record ∈ records, record.toPair segmenter files.representation ∈ pairs →
    ∀ text ∈ record.shownTexts files.representation, '\n' ∉ text
  apart : disk.locate files.sourcePath = disk.locate files.targetPath →
    ∀ pair ∈ pairs, pair.source = pair.target

theorem pairs_filesOf (folder split : String) (representation : Representation) :
    ((build segmenter dedup additions).filesOf folder split representation).pairs =
      ((build segmenter dedup additions).pairs representation).length := by
  have sources := (isEven_build segmenter dedup additions).sources_eq representation
  rw [← List.length_map (·.source), ← sources]
  rfl

/-- Once a corpus is written, the two files of a representation are aligned exactly when no record
    that was kept shows a text with a newline in it, and when the files are two or the sources are
    their own targets. Files are two in every folder when the split has no slash in it. -/
theorem write_aligned_iff {before after : Disk} {folder split : String} {stats : List CorpusFiles}
    (written : (build segmenter dedup additions).write before folder split = (after, .ok stats)) :
    stats.map (·.representation) = Representation.all ∧
      ∀ files ∈ stats,
        files = (build segmenter dedup additions).filesOf folder split files.representation ∧
        ('/' ∉ split.toList → after.locate files.sourcePath ≠ after.locate files.targetPath) ∧
        (Aligned after files ((build segmenter dedup additions).pairs files.representation) ↔
          Alignable segmenter (additions.flatMap Addition.records) after files
            ((build segmenter dedup additions).pairs files.representation)) := by
  obtain ⟨rfl, -⟩ := write_eq_ok written
  refine ⟨by simp [filesOf, Function.comp_def], ?_⟩
  intro files member
  obtain ⟨representation, -, rfl⟩ := List.mem_map.mp member
  refine ⟨rfl, locate_ne_of_plain written representation, ?_⟩
  have even := isEven_build segmenter dedup additions
  have targets := readText_targetPath written representation
  have sources := readText_sourcePath written representation
  rw [even.targets_eq] at targets
  rw [even.sources_eq] at sources
  have aligned := aligned_iff_of_readText (pairs_filesOf folder split representation)
    (fun _ => newline_not_mem_target) targets sources
  rw [newline_not_mem_sources_iff] at aligned
  constructor
  · intro holds
    obtain ⟨unbroken, apart⟩ := aligned.mp holds
    exact ⟨unbroken, apart⟩
  · intro alignable
    exact aligned.mpr ⟨alignable.unbroken, alignable.apart⟩

end Built

/-- A function with a token of two lines. -/
def twoLineRecord : Record := ⟨0, "0_15", "main", [], [], [], ["a\nb"]⟩

/-- The corpus of that function alone. -/
abbrev twoLineCorpus : CorpusBuilder := .build .plain false [.one twoLineRecord]

/-- The corpus of one pair is written, and its sources are two lines. -/
theorem not_aligned_twoLineCorpus :
    (twoLineCorpus.write ⟨.empty, []⟩ "out" "train").2 =
        .ok (Representation.all.map (twoLineCorpus.filesOf "out" "train")) ∧
      ¬ Aligned (twoLineCorpus.write ⟨.empty, []⟩ "out" "train").1
        (twoLineCorpus.filesOf "out" "train" .pseudoCode) (twoLineCorpus.pairs .pseudoCode) := by
  obtain ⟨result, kept⟩ :
      (twoLineCorpus.write ⟨.empty, []⟩ "out" "train").2 =
          .ok (Representation.all.map (twoLineCorpus.filesOf "out" "train")) ∧
        twoLineRecord.toPair .plain .pseudoCode ∈ twoLineCorpus.pairs .pseudoCode := by
    decide +kernel
  have shown : "a\nb".toList ∈ twoLineRecord.shownTexts .pseudoCode := by
    decide
  refine ⟨result, fun aligned => ?_⟩
  have written : twoLineCorpus.write ⟨.empty, []⟩ "out" "train" =
      ((twoLineCorpus.write ⟨.empty, []⟩ "out" "train").1,
        .ok (Representation.all.map (twoLineCorpus.filesOf "out" "train"))) := by
    rw [← result]
  obtain ⟨-, iffs⟩ := write_aligned_iff written
  obtain ⟨-, -, iff⟩ := iffs _ (List.mem_map_of_mem (a := Representation.pseudoCode) (by decide))
  have alignable := iff.mp aligned
  have unbroken := alignable.unbroken twoLineRecord List.mem_cons_self kept "a\nb".toList shown
  exact unbroken (by decide)

end SymbolCorpus
