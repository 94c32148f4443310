import Mathlib.Data.List.Forall2
import SymbolCorpus.Instruction.Representation
import SymbolCorpus.Proofs.LastGiven

/-! # Moved addresses

All addresses of a binary may be moved by one distance. Addresses are only compared
with each other, so every test on them comes out as before, and a token that shows
an address shows the same. Its value need not be an address in both cases: a value
that leaves the words, or enters them, is in no range and has no name.
-/

namespace SymbolCorpus

/-- The other address is this one moved by a distance. -/
def Moved (distance : Int) (address other : Address) : Prop :=
  (other.toNat : Int) = address.toNat + distance

instance (distance : Int) (address other : Address) : Decidable (Moved distance address other) :=
  inferInstanceAs (Decidable ((other.toNat : Int) = address.toNat + distance))

namespace Moved

variable {distance : Int} {address other first first' last last' : Address}

theorem symm (h : Moved distance address other) : Moved (-distance) other address := by
  unfold Moved at *
  omega

theorem le_iff (begins : Moved distance first first') (ends : Moved distance last last') :
    first ≤ last ↔ first' ≤ last' := by
  unfold Moved at *
  rw [UInt64.le_iff_toNat_le, UInt64.le_iff_toNat_le]
  omega

theorem lt_iff (begins : Moved distance first first') (ends : Moved distance last last') :
    first < last ↔ first' < last' := by
  rw [← UInt64.not_le, ← UInt64.not_le, ends.le_iff begins]

theorem eq_iff (begins : Moved distance first first') (ends : Moved distance last last') :
    first = last ↔ first' = last' := by
  unfold Moved at *
  rw [← UInt64.toNat_inj, ← UInt64.toNat_inj]
  omega

/-- What lies between two addresses that can be moved can be moved. -/
theorem exists_between (begins : Moved distance first first') (ends : Moved distance last last')
    (behind : first ≤ address) (before : address ≤ last) : ∃ other, Moved distance address other := by
  unfold Moved at *
  rw [UInt64.le_iff_toNat_le] at behind before
  have bound := last'.toNat_lt
  refine ⟨.ofNat (address.toNat + distance).toNat, ?_⟩
  rw [UInt64.toNat_ofNat_of_lt' (by unfold UInt64.size; omega)]
  omega

end Moved

/-! ## Ranges -/

structure AddressRange.Moved (distance : Int) (range other : AddressRange) : Prop where
  first : SymbolCorpus.Moved distance range.first other.first
  last : SymbolCorpus.Moved distance range.last other.last

namespace AddressRange.Moved

variable {distance : Int} {range range' other other' : AddressRange}

theorem symm (h : AddressRange.Moved distance range other) :
    AddressRange.Moved (-distance) other range :=
  ⟨h.first.symm, h.last.symm⟩

theorem contains_eq (h : AddressRange.Moved distance range range') {address address' : Address}
    (moved : SymbolCorpus.Moved distance address address') :
    range.contains address = range'.contains address' := by
  simp only [contains, h.first.le_iff moved, moved.le_iff h.last]

theorem encloses_eq (h : AddressRange.Moved distance range range')
    (h' : AddressRange.Moved distance other other') : range.encloses other = range'.encloses other' := by
  simp only [encloses, h.first.le_iff h'.first, h'.last.le_iff h.last]

theorem overlaps_eq (h : AddressRange.Moved distance range range')
    (h' : AddressRange.Moved distance other other') : range.overlaps other = range'.overlaps other' := by
  simp only [overlaps, h.first.le_iff h'.last, h'.first.le_iff h.last]

theorem eq_iff (h : AddressRange.Moved distance range range')
    (h' : AddressRange.Moved distance other other') : range = other ↔ range' = other' := by
  cases range
  cases other
  cases range'
  cases other'
  rw [AddressRange.mk.injEq, AddressRange.mk.injEq]
  exact and_congr (h.first.eq_iff h'.first) (h.last.eq_iff h'.last)

theorem exists_of_contains (h : AddressRange.Moved distance range other) {address : Address}
    (inside : range.contains address = true) :
    ∃ address', SymbolCorpus.Moved distance address address' := by
  simp only [contains, Bool.and_eq_true, decide_eq_true_eq] at inside
  exact h.first.exists_between h.last inside.1 inside.2

end AddressRange.Moved

/-! ## Names of addresses -/

/-- Exactly the addresses that have a name are moved, and they keep it. -/
structure SymbolTable.Moved (distance : Int) (table other : SymbolTable) : Prop where
  find? : ∀ address address', SymbolCorpus.Moved distance address address' →
    table.find? address = other.find? address'
  forth : ∀ address, (table.find? address).isSome = true →
    ∃ address', SymbolCorpus.Moved distance address address'
  back : ∀ address', (other.find? address').isSome = true →
    ∃ address, SymbolCorpus.Moved distance address address'

namespace SymbolTable

variable {distance : Int}

theorem Moved.symm {table other : SymbolTable} (h : table.Moved distance other) :
    other.Moved (-distance) table where
  find? address address' moved := by
    have back := moved.symm
    rw [Int.neg_neg] at back
    exact (h.find? address' address back).symm
  forth address named := (h.back address named).imp fun _ moved => moved.symm
  back address named := (h.forth address named).imp fun _ moved => moved.symm

theorem moved_ofList {symbols symbols' : List (Address × String)}
    (h : List.Forall₂ (fun symbol symbol' => SymbolCorpus.Moved distance symbol.1 symbol'.1 ∧
      symbol.2 = symbol'.2) symbols symbols') :
    (ofList symbols).Moved distance (ofList symbols') where
  find? address address' moved := by
    rw [find?_ofList, find?_ofList]
    exact lastGiven?_congr (fun _ _ same => same.eq_iff moved) h
  forth address named := by
    rw [find?_ofList, isSome_lastGiven?] at named
    obtain ⟨symbol, member, rfl⟩ := List.mem_map.mp named
    obtain ⟨symbol', -, moved, -⟩ := exists_of_mem_forall₂ h member
    exact ⟨symbol'.1, moved⟩
  back address' named := by
    rw [find?_ofList, isSome_lastGiven?] at named
    obtain ⟨symbol', member, rfl⟩ := List.mem_map.mp named
    obtain ⟨symbol, -, moved, -⟩ := exists_of_mem_forall₂ h.flip member
    exact ⟨symbol.1, moved⟩

end SymbolTable

/-! ## Tokens -/

structure AddressContext.Moved (distance : Int) (context other : AddressContext) : Prop where
  function : AddressRange.Moved distance context.function other.function
  textSection : AddressRange.Moved distance context.textSection other.textSection
  symbols : context.symbols.Moved distance other.symbols

theorem AddressContext.Moved.symm {distance : Int} {context other : AddressContext}
    (h : context.Moved distance other) : other.Moved (-distance) context :=
  ⟨h.function.symm, h.textSection.symm, h.symbols.symm⟩

/-- The value of an address token is moved, whatever is shown for it then. Every other token stays as
    it is, and so does an address token without a value. -/
inductive InstructionToken.Moved (distance : Int) : InstructionToken → InstructionToken → Prop where
  | address {kind : TokenKind} {text text' : String} {value value' : TokenValue} :
      kind.isAddress = true → value'.val = value.val + distance →
      Moved distance ⟨kind, text, some value⟩ ⟨kind, text', some value'⟩
  | same {token : InstructionToken} : token.kind.isAddress = false ∨ token.value = none →
      Moved distance token token

namespace Abstraction

theorem addressOf?_eq_some {value : Int} {address : Address} :
    addressOf? value = some address ↔ (address.toNat : Int) = value := by
  cases value with
  | negSucc value =>
      simp only [addressOf?, reduceCtorEq]
  | ofNat value =>
      have bound := address.toNat_lt
      simp only [addressOf?, Integer.toUInt64?, UInt64.size, Int.ofNat_eq_natCast, Int.natCast_inj]
      split
      · next fits =>
          rw [Option.some.injEq, ← UInt64.toNat_inj, UInt64.toNat_ofNat_of_lt' fits, eq_comm]
      · next large =>
          simp only [reduceCtorEq, false_iff]
          omega

variable {distance : Int} {context other : AddressContext}

theorem renderAddress_of_unmoved (h : context.Moved distance other) {value : Int}
    (unmoved : ∀ address address', addressOf? value = some address →
      ¬ Moved distance address address') : renderAddress context value = otherAddress := by
  unfold renderAddress
  cases here : addressOf? value with
  | none => rfl
  | some address =>
      -- A named address is moved, and so is every address between the ends of a range.
      have nowhere : ¬ ∃ address', Moved distance address address' :=
        fun ⟨address', moved⟩ => unmoved address address' here moved
      have unnamed : context.symbols.find? address = none := by
        rw [← Option.not_isSome_iff_eq_none]
        exact fun named => nowhere (h.symbols.forth address named)
      have notLocal : context.function.contains address = false :=
        Bool.eq_false_iff.mpr fun inside => nowhere (h.function.exists_of_contains inside)
      have notNear : context.textSection.contains address = false :=
        Bool.eq_false_iff.mpr fun inside => nowhere (h.textSection.exists_of_contains inside)
      simp [unnamed, notLocal, notNear]

theorem renderAddress_moved (h : context.Moved distance other) {value value' : Int}
    (moved : value' = value + distance) :
    renderAddress context value = renderAddress other value' := by
  -- Either both values are addresses, or neither of them is the address that the other one is moved to.
  by_cases both : ∃ address address', addressOf? value = some address ∧ addressOf? value' = some address'
  · obtain ⟨address, address', here, here'⟩ := both
    have movedAddress : Moved distance address address' := by
      rw [addressOf?_eq_some] at here here'
      rw [Moved, here, here', moved]
    simp only [renderAddress, here, here', h.symbols.find? _ _ movedAddress,
      h.function.contains_eq movedAddress, h.textSection.contains_eq movedAddress]
  · have left : renderAddress context value = otherAddress := by
      refine renderAddress_of_unmoved h fun address address' here movedAddress => both ?_
      refine ⟨address, address', here, ?_⟩
      rw [addressOf?_eq_some] at here ⊢
      rw [movedAddress, here, moved]
    have right : renderAddress other value' = otherAddress := by
      refine renderAddress_of_unmoved h.symm fun address' address here movedAddress => both ?_
      refine ⟨address, address', ?_, here⟩
      rw [addressOf?_eq_some] at here ⊢
      rw [Moved] at movedAddress
      omega
    rw [left, right]

theorem render_moved (abstraction : Abstraction) (h : context.Moved distance other)
    {token token' : InstructionToken} (moved : token.Moved distance token') :
    abstraction.render context token = abstraction.render other token' := by
  cases moved with
  | @address kind _ _ _ _ isAddress moved =>
      simp only [render, isAddress]
      exact renderAddress_moved h moved
  | same noAddress =>
      unfold render
      split
      · next value isAddress valued => simp [isAddress, valued] at noAddress
      · rfl

end Abstraction

/-! ## Streams -/

/-- The streams are moved token by token. -/
structure FunctionStreams.Moved (distance : Int) (streams other : FunctionStreams) : Prop where
  instructions : List.Forall₂ (List.Forall₂ (InstructionToken.Moved distance)) streams.instructions
    other.instructions
  llil : List.Forall₂ (List.Forall₂ (InstructionToken.Moved distance)) streams.llil other.llil
  mlil : List.Forall₂ (List.Forall₂ (InstructionToken.Moved distance)) streams.mlil other.mlil

section

variable {distance : Int} {context other : AddressContext}

theorem abstractStream_moved (threshold : Int) (h : context.Moved distance other)
    (representation : Representation) {stream stream' : List (List InstructionToken)}
    (moved : List.Forall₂ (List.Forall₂ (InstructionToken.Moved distance)) stream stream') :
    abstractStream threshold context representation stream =
      abstractStream threshold other representation stream' := by
  unfold abstractStream
  rw [← List.forall₂_eq_eq_eq]
  refine List.rel_map (fun instruction instruction' tokens => ?_) moved
  rw [← List.forall₂_eq_eq_eq]
  refine List.rel_map (fun token token' shown => ?_) tokens
  exact Abstraction.render_moved _ h shown

/-- Moved streams in moved surroundings are abstracted alike. -/
theorem FunctionStreams.abstracted_moved (threshold : Int) (h : context.Moved distance other)
    {streams streams' : FunctionStreams} (moved : streams.Moved distance streams') :
    streams.abstracted threshold context = streams'.abstracted threshold other := by
  unfold FunctionStreams.abstracted
  rw [abstractStream_moved threshold h _ moved.instructions,
    abstractStream_moved threshold h _ moved.llil, abstractStream_moved threshold h _ moved.mlil]

end

end SymbolCorpus
