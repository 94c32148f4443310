import Std.Data.HashSet
import SymbolCorpus.Corpus.Render
import SymbolCorpus.Digest.Sha256
import SymbolCorpus.Text.Octets

/-! # Building a corpus

A builder takes records and keeps a lane for each representation: the source lines, and the target
lines that belong to them. A record without a target is dropped from every lane; with de-duplication a
pair of lines is dropped from a lane that has one of the same digest.
-/

namespace SymbolCorpus

/-- A source line with its target line. -/
structure CorpusPair where
  /-- The rendered code. -/
  source : List Char
  /-- The segmented name. -/
  target : List Char
  deriving Repr, DecidableEq

/-- The digest by which repeated pairs are known: that of the target, a bar and the source. -/
def CorpusPair.digest (pair : CorpusPair) : String :=
  Sha256.hexDigest (Text.toOctets (pair.target ++ '|' :: pair.source))

/-- The lines of one representation, in the order in which they were added. -/
structure Lane where
  sources : Array (List Char)
  targets : Array (List Char)
  /-- The digests of the pairs, when repeated ones are dropped. -/
  seen : Std.HashSet String
  /-- How many records were dropped. -/
  dropped : Nat

namespace Lane

/-- No lines, and none dropped. -/
def empty : Lane := ⟨#[], #[], ∅, 0⟩

def drop (lane : Lane) : Lane := { lane with dropped := lane.dropped + 1 }

def push (pair : CorpusPair) (lane : Lane) : Lane :=
  { lane with sources := lane.sources.push pair.source, targets := lane.targets.push pair.target }

/-- Each source with the target in the same place. -/
def pairs (lane : Lane) : List CorpusPair :=
  (lane.sources.toList.zip lane.targets.toList).map fun (source, target) => ⟨source, target⟩

/-- The lane with a pair added, or dropped when it is repeated and repeated ones are not wanted. -/
def add (dedup : Bool) (pair : CorpusPair) (lane : Lane) : Lane :=
  if !dedup then lane.push pair
  else if lane.seen.contains pair.digest then lane.drop
  else { lane.push pair with seen := lane.seen.insert pair.digest }

end Lane

/-- One lane for each representation. -/
structure Lanes where
  instructions : Lane
  /-- The low-level intermediate language. -/
  llil : Lane
  /-- The mid-level intermediate language. -/
  mlil : Lane
  pseudoCode : Lane

namespace Lanes

def empty : Lanes := ⟨.empty, .empty, .empty, .empty⟩

def get (lanes : Lanes) : Representation → Lane
  | .instructions => lanes.instructions
  | .llil => lanes.llil
  | .mlil => lanes.mlil
  | .pseudoCode => lanes.pseudoCode

/-- The lanes with each one changed. -/
def modify (change : Representation → Lane → Lane) (lanes : Lanes) : Lanes :=
  { instructions := change .instructions lanes.instructions
    llil := change .llil lanes.llil
    mlil := change .mlil lanes.mlil
    pseudoCode := change .pseudoCode lanes.pseudoCode }

/-- Each lane is changed by itself. -/
@[simp] theorem get_modify (change : Representation → Lane → Lane) (lanes : Lanes)
    (representation : Representation) :
    (lanes.modify change).get representation = change representation (lanes.get representation) := by
  cases representation <;> rfl

end Lanes

/-- A corpus that is being built. -/
structure CorpusBuilder where
  /-- Segments names. -/
  segmenter : Identifier.Segmenter
  /-- Repeated pairs are dropped. -/
  dedup : Bool
  lanes : Lanes

namespace CorpusBuilder

/-- A corpus with nothing in it. -/
def empty (segmenter : Identifier.Segmenter) (dedup : Bool) : CorpusBuilder :=
  ⟨segmenter, dedup, .empty⟩

/-- The change that a record makes to a lane. -/
def addTo (builder : CorpusBuilder) (record : Record) (representation : Representation)
    (lane : Lane) : Lane :=
  let target := record.renderTarget builder.segmenter
  if target.isEmpty then lane.drop
  else lane.add builder.dedup ⟨record.renderSource builder.segmenter representation, target⟩

def add (builder : CorpusBuilder) (record : Record) : CorpusBuilder :=
  { builder with lanes := builder.lanes.modify (builder.addTo record) }

/-- The corpus with the records of a map added in the order of their keys. -/
def addRecords (builder : CorpusBuilder) (records : RecordMap) : CorpusBuilder :=
  records.records.foldl add builder

def sources (builder : CorpusBuilder) (representation : Representation) : List (List Char) :=
  (builder.lanes.get representation).sources.toList

def targets (builder : CorpusBuilder) (representation : Representation) : List (List Char) :=
  (builder.lanes.get representation).targets.toList

def pairs (builder : CorpusBuilder) (representation : Representation) : List CorpusPair :=
  (builder.lanes.get representation).pairs

/-- How many records a representation has dropped. -/
def dropped (builder : CorpusBuilder) (representation : Representation) : Nat :=
  (builder.lanes.get representation).dropped

end CorpusBuilder

end SymbolCorpus
