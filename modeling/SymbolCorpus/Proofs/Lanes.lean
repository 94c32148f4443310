import SymbolCorpus.Corpus.Builder

/-! # Lanes of a corpus

Records reach a corpus one by one or a map at a time. Whatever the order, a lane has a target for each
source, and each of these pairs is the pair of a record that was added.
-/

namespace SymbolCorpus

/-- The pair of a record in a representation. -/
def Record.toPair (segmenter : Identifier.Segmenter) (record : Record)
    (representation : Representation) : CorpusPair :=
  ⟨record.renderSource segmenter representation, record.renderTarget segmenter⟩

/-- What can be added to a corpus at once. -/
inductive Addition where
  /-- One record. -/
  | one (record : Record)
  /-- All records of a map. -/
  | all (records : RecordMap)

/-- The records of an addition, in the order in which they are added. -/
def Addition.records : Addition → List Record
  | one record => [record]
  | all records => records.records

/-! ## One lane -/

namespace Lane

variable {lane : Lane}

/-- A lane has as many targets as sources. -/
def IsEven (lane : Lane) : Prop := lane.sources.size = lane.targets.size

theorem isEven_empty : Lane.empty.IsEven := rfl

theorem IsEven.drop (even : lane.IsEven) : lane.drop.IsEven := even

theorem IsEven.push (even : lane.IsEven) (pair : CorpusPair) : (lane.push pair).IsEven := by
  unfold IsEven at even ⊢
  rw [Lane.push, Array.size_push, Array.size_push, even]

theorem IsEven.add (even : lane.IsEven) (dedup : Bool) (pair : CorpusPair) :
    (lane.add dedup pair).IsEven := by
  unfold Lane.add
  split
  · exact even.push pair
  · split
    · exact even.drop
    · exact even.push pair

theorem IsEven.pairs_push (even : lane.IsEven) (pair : CorpusPair) :
    (lane.push pair).pairs = lane.pairs ++ [pair] := by
  have lengths : lane.sources.toList.length = lane.targets.toList.length := even
  simp [Lane.pairs, Lane.push, List.zip_append lengths]

theorem IsEven.sources_eq (even : lane.IsEven) : lane.sources.toList = lane.pairs.map (·.source) := by
  rw [Lane.pairs, List.map_map]
  exact (List.map_fst_zip (Nat.le_of_eq even)).symm

theorem IsEven.targets_eq (even : lane.IsEven) : lane.targets.toList = lane.pairs.map (·.target) := by
  rw [Lane.pairs, List.map_map]
  exact (List.map_snd_zip (Nat.le_of_eq even.symm)).symm

theorem IsEven.pairs_add (even : lane.IsEven) (dedup : Bool) (pair : CorpusPair) :
    (lane.add dedup pair).pairs = lane.pairs ∨ (lane.add dedup pair).pairs = lane.pairs ++ [pair] := by
  unfold Lane.add
  split
  · exact .inr (even.pairs_push pair)
  · split
    · exact .inl rfl
    · exact .inr (even.pairs_push pair)

end Lane

/-! ## All lanes -/

namespace CorpusBuilder

/-- The corpus after one addition. -/
def apply (builder : CorpusBuilder) : Addition → CorpusBuilder
  | .one record => builder.add record
  | .all records => builder.addRecords records

/-- The corpus that additions one after another make. -/
def build (segmenter : Identifier.Segmenter) (dedup : Bool) (additions : List Addition) :
    CorpusBuilder :=
  additions.foldl apply (empty segmenter dedup)

theorem apply_eq (builder : CorpusBuilder) (addition : Addition) :
    builder.apply addition = addition.records.foldl add builder := by
  cases addition with
  | one record => rfl
  | all records => rfl

theorem build_eq (segmenter : Identifier.Segmenter) (dedup : Bool) (additions : List Addition) :
    build segmenter dedup additions =
      (additions.flatMap Addition.records).foldl add (empty segmenter dedup) := by
  unfold build
  generalize empty segmenter dedup = builder
  induction additions generalizing builder with
  | nil => rfl
  | cons addition additions ih =>
      rw [List.flatMap_cons, List.foldl_append, ← apply_eq]
      exact ih (builder.apply addition)

theorem lane_add (builder : CorpusBuilder) (record : Record) (representation : Representation) :
    (builder.add record).lanes.get representation =
      builder.addTo record representation (builder.lanes.get representation) :=
  Lanes.get_modify _ _ _

theorem addTo_eq (builder : CorpusBuilder) (record : Record) (representation : Representation)
    (lane : Lane) :
    builder.addTo record representation lane =
      if (record.renderTarget builder.segmenter).isEmpty then lane.drop
      else lane.add builder.dedup (record.toPair builder.segmenter representation) := rfl

/-- Every lane has as many targets as sources. -/
def IsEven (builder : CorpusBuilder) : Prop :=
  ∀ representation, (builder.lanes.get representation).IsEven

theorem isEven_empty (segmenter : Identifier.Segmenter) (dedup : Bool) :
    (empty segmenter dedup).IsEven := by
  intro representation
  cases representation <;> exact Lane.isEven_empty

theorem IsEven.add {builder : CorpusBuilder} (even : builder.IsEven) (record : Record) :
    (builder.add record).IsEven := by
  intro representation
  rw [lane_add, addTo_eq]
  split
  · exact (even representation).drop
  · exact (even representation).add ..

theorem IsEven.foldl {builder : CorpusBuilder} (even : builder.IsEven) (records : List Record) :
    (records.foldl CorpusBuilder.add builder).IsEven := by
  induction records generalizing builder with
  | nil => exact even
  | cons record records ih => exact ih (even.add record)

theorem isEven_build (segmenter : Identifier.Segmenter) (dedup : Bool) (additions : List Addition) :
    (build segmenter dedup additions).IsEven := by
  rw [build_eq]
  exact (isEven_empty segmenter dedup).foldl _

theorem IsEven.sources_eq {builder : CorpusBuilder} (even : builder.IsEven)
    (representation : Representation) :
    builder.sources representation = (builder.pairs representation).map (·.source) :=
  (even representation).sources_eq

theorem IsEven.targets_eq {builder : CorpusBuilder} (even : builder.IsEven)
    (representation : Representation) :
    builder.targets representation = (builder.pairs representation).map (·.target) :=
  (even representation).targets_eq

theorem IsEven.mem_pairs_add {builder : CorpusBuilder} (even : builder.IsEven) {record : Record}
    {representation : Representation} {pair : CorpusPair}
    (h : pair ∈ (builder.add record).pairs representation) :
    pair ∈ builder.pairs representation ∨ pair = record.toPair builder.segmenter representation := by
  unfold pairs at h ⊢
  rw [lane_add, addTo_eq] at h
  split at h
  · exact .inl h
  · rcases (even representation).pairs_add builder.dedup
        (record.toPair builder.segmenter representation) with same | more
    · rw [same] at h
      exact .inl h
    · rw [more] at h
      simpa using h

theorem IsEven.mem_pairs_foldl {builder : CorpusBuilder} (even : builder.IsEven)
    {records : List Record} {representation : Representation} {pair : CorpusPair}
    (h : pair ∈ (records.foldl CorpusBuilder.add builder).pairs representation) :
    pair ∈ builder.pairs representation ∨
      ∃ record ∈ records, pair = record.toPair builder.segmenter representation := by
  induction records generalizing builder with
  | nil => exact .inl h
  | cons record records ih =>
      rcases ih (even.add record) h with before | ⟨later, member, same⟩
      · rcases even.mem_pairs_add before with old | new
        · exact .inl old
        · exact .inr ⟨record, List.mem_cons_self, new⟩
      · exact .inr ⟨later, List.mem_cons_of_mem record member, same⟩

/-- Every pair of a corpus is the pair of a record that was added to it. -/
theorem mem_pairs_build {segmenter : Identifier.Segmenter} {dedup : Bool}
    {additions : List Addition} {representation : Representation} {pair : CorpusPair}
    (h : pair ∈ (build segmenter dedup additions).pairs representation) :
    ∃ record ∈ additions.flatMap Addition.records, pair = record.toPair segmenter representation := by
  rw [build_eq] at h
  rcases (isEven_empty segmenter dedup).mem_pairs_foldl h with impossible | added
  · cases representation <;> cases impossible
  · exact added

end CorpusBuilder

end SymbolCorpus
