/-! # Integers of a fixed width

Documents hold integers of any size. Where a word is stored, an integer counts only if the word can
hold it.
-/

namespace SymbolCorpus.Integer

/-- The word of sixty-four bits without a sign that stands for a number. -/
def toUInt64? (value : Nat) : Option UInt64 :=
  if value < UInt64.size then some (UInt64.ofNat value) else none

/-- The signed word of sixty-four bits that stands for a number. -/
def toInt64? (value : Int) : Option Int64 :=
  if Int64.minValue.toInt ≤ value ∧ value ≤ Int64.maxValue.toInt then some (Int64.ofInt value)
  else none

/-- The signed word of thirty-two bits that stands for a number. -/
def toInt32? (value : Int) : Option Int32 :=
  if Int32.minValue.toInt ≤ value ∧ value ≤ Int32.maxValue.toInt then some (Int32.ofInt value)
  else none

def signed (negative : Bool) (magnitude : Nat) : Int :=
  if negative then -(magnitude : Int) else magnitude

end SymbolCorpus.Integer
