import Mathlib.Data.List.SplitBy
import SymbolCorpus.Proofs.Masking

/-! # Masking word by word

A text is cut wherever an identifier begins or ends, into its longest runs of identifier characters
and the texts between them. Masking replaces the runs that are the name, and changes and moves
nothing else. It looks for the letters of the name and not for runs, but an occurrence that is no
whole run has a neighbour within its run, and the runs that are the name lie apart.
-/

namespace SymbolCorpus.PseudoCode

/-- Both characters belong to identifiers, or neither does. -/
def onOneSide (a b : Char) : Bool := isIdentifierChar a == isIdentifierChar b

/-- The longest runs of identifier characters of a text and the texts between them, in order. -/
def stretches (text : List Char) : List (List Char) := text.splitBy onOneSide

/-- A stretch is replaced when it is the name. -/
def maskStretch (name stretch : List Char) : List Char :=
  if stretch = name then maskedName else stretch

/-- Runs of identifier characters and texts without any by turns, none of them empty. -/
structure AlternateSides (parts : List (List Char)) : Prop where
  uniform : ∀ part ∈ parts, part ≠ [] ∧ ∃ side, ∀ c ∈ part, isIdentifierChar c = side
  turns : parts.IsChain fun part next =>
    ∀ c ∈ part, ∀ d ∈ next, isIdentifierChar c ≠ isIdentifierChar d

/-! ## Stretches -/

theorem isChain_onOneSide_iff {part : List Char} :
    (part.IsChain fun a b => onOneSide a b) ↔ ∃ side, ∀ c ∈ part, isIdentifierChar c = side := by
  have : IsTrans Char fun a b => onOneSide a b = true :=
    ⟨fun a b c left right => by
      simp only [onOneSide, beq_iff_eq] at left right ⊢
      exact left.trans right⟩
  rw [List.isChain_iff_pairwise]
  constructor
  · intro pairs
    cases part with
    | nil => exact ⟨true, List.forall_mem_nil _⟩
    | cons first rest =>
        refine ⟨isIdentifierChar first, List.forall_mem_cons.mpr ⟨rfl, fun c member => ?_⟩⟩
        exact (beq_iff_eq.mp ((List.pairwise_cons.mp pairs).1 c member)).symm
  · rintro ⟨side, uniform⟩
    refine List.pairwise_of_forall_mem_list fun a memberA b memberB => ?_
    simp [onOneSide, uniform a memberA, uniform b memberB]

theorem alternateSides_stretches (text : List Char) : AlternateSides (stretches text) := by
  have uniform : ∀ part ∈ stretches text, part ≠ [] ∧ ∃ side, ∀ c ∈ part, isIdentifierChar c = side :=
    fun part member => ⟨List.ne_nil_of_mem_splitBy member,
      isChain_onOneSide_iff.mp (List.isChain_of_mem_splitBy member)⟩
  refine ⟨uniform, List.IsChain.imp_of_mem_imp ?_ (List.isChain_getLast_head_splitBy onOneSide text)⟩
  rintro part next inParts alsoInParts ⟨someLeft, someRight, apart⟩ c inPart d inNext
  obtain ⟨-, left, uniformLeft⟩ := uniform part inParts
  obtain ⟨-, right, uniformRight⟩ := uniform next alsoInParts
  have sides : left ≠ right := by
    simpa [onOneSide, uniformLeft _ (List.getLast_mem someLeft),
      uniformRight _ (List.head_mem someRight)] using apart
  rwa [uniformLeft c inPart, uniformRight d inNext]

/-- Stretches are the only way to cut a text so that identifiers and other texts alternate. -/
theorem stretches_eq_iff {text : List Char} {parts : List (List Char)} :
    stretches text = parts ↔ parts.flatten = text ∧ AlternateSides parts := by
  constructor
  · rintro rfl
    exact ⟨List.flatten_splitBy onOneSide text, alternateSides_stretches text⟩
  · rintro ⟨rfl, h⟩
    have nonempty : [] ∉ parts := fun member => (h.uniform [] member).1 rfl
    refine List.splitBy_flatten nonempty
      (fun part member => isChain_onOneSide_iff.mpr (h.uniform part member).2)
      (List.IsChain.imp_of_mem_imp ?_ h.turns)
    intro part next inParts alsoInParts turn
    have someLeft := (h.uniform part inParts).1
    have someRight := (h.uniform next alsoInParts).1
    refine ⟨someLeft, someRight, ?_⟩
    simpa [onOneSide] using turn _ (List.getLast_mem someLeft) _ (List.head_mem someRight)

/-! ## Masking a run -/

/-- Within identifiers nothing is replaced where an identifier character precedes the text, or where
    the text is longer than the name: whatever is found has a neighbour. -/
theorem maskFrom_run {name run : List Char} (nonempty : name ≠ [])
    (inside : ∀ c ∈ run, isIdentifierChar c = true) :
    ∀ (before : Option Char) (skip : Nat), continues before = true ∨ 0 < skip ∨ run ≠ name →
      maskFrom name before skip run = run.drop skip := by
  induction run with
  | nil => exact fun _ _ _ => by simp [maskFrom]
  | cons c rest ih =>
      rw [List.forall_mem_cons] at inside
      intro before skip neighbour
      have later : ∀ left, maskFrom name (some c) left rest = rest.drop left :=
        fun left => ih inside.2 (some c) left (.inl inside.1)
      cases skip with
      | succ left => exact later left
      | zero =>
          simp only [maskFrom, later]
          cases found : name.isPrefixOf? (c :: rest) with
          | none => rfl
          | some after =>
              have whole := List.isPrefixOf?_eq_some_iff_append_eq.mp found
              have beside : (continues before || continues after.head?) = true := by
                rcases neighbour with left | impossible | longer
                · rw [left, Bool.true_or]
                · exact absurd impossible (Nat.lt_irrefl 0)
                · cases after with
                  | nil => exact absurd (by rw [← whole, List.append_nil]) longer
                  | cons d after =>
                      have inRest : d ∈ c :: rest := by rw [← whole]; simp
                      have goesOn : isIdentifierChar d = true := by
                        rcases List.mem_cons.mp inRest with rfl | member
                        · exact inside.1
                        · exact inside.2 d member
                      exact Bool.or_eq_true_iff.mpr (.inr goesOn)
              obtain ⟨n, letters, rfl⟩ := List.exists_cons_of_ne_nil nonempty
              obtain ⟨rfl, rfl⟩ := List.cons.inj whole
              simp [beside]

theorem mask_run {name run : List Char} (nonempty : name ≠ [])
    (inside : ∀ c ∈ run, isIdentifierChar c = true) :
    mask name run = maskStretch name run := by
  unfold maskStretch
  split
  · next same => rw [same, mask_self nonempty]
  · next other =>
      have named : name.isEmpty = false := by simpa using nonempty
      rw [mask, named]
      exact maskFrom_run nonempty inside none 0 (.inr (.inr other))

/-! ## Masking all stretches -/

section Masking

variable {name : List Char} (nonempty : name ≠ []) (identifier : ∀ c ∈ name, isIdentifierChar c = true)
include nonempty identifier

theorem mask_gap_append {gap : List Char} (between : ∀ c ∈ gap, isIdentifierChar c = false)
    (rest : List Char) : mask name (gap ++ rest) = gap ++ mask name rest := by
  induction gap with
  | nil => rfl
  | cons c gap ih =>
      rw [List.forall_mem_cons] at between
      have absent : c ∉ name := fun member => by simp [identifier c member] at between
      have here := mask_separated absent nonempty between.1 [] (gap ++ rest)
      rw [ih between.2] at here
      simpa [mask, maskFrom] using here

theorem mask_append {rest : List Char} (ends : ∀ c ∈ rest.head?, isIdentifierChar c = false)
    (text : List Char) : mask name (text ++ rest) = mask name text ++ mask name rest := by
  cases rest with
  | nil => simp [mask, maskFrom]
  | cons c rest =>
      have gap : isIdentifierChar c = false := ends c rfl
      have absent : c ∉ name := fun member => by simp [identifier c member] at gap
      have alone : mask name (c :: rest) = c :: mask name rest :=
        mask_gap_append nonempty identifier (by simpa using gap : ∀ d ∈ [c], _) rest
      rw [mask_separated absent nonempty gap, alone]

/-- Masking goes stretch by stretch. -/
theorem mask_flatten {parts : List (List Char)} (h : AlternateSides parts) :
    mask name parts.flatten = parts.flatMap (maskStretch name) := by
  induction parts with
  | nil => simp [mask, maskFrom]
  | cons part parts ih =>
      have turns := List.isChain_cons.mp h.turns
      have later := ih ⟨fun next member => h.uniform next (List.mem_cons_of_mem part member), turns.2⟩
      obtain ⟨some, side, uniform⟩ := h.uniform part List.mem_cons_self
      rw [List.flatten_cons, List.flatMap_cons, ← later]
      cases side with
      | false =>
          have other : part ≠ name := by
            rintro rfl
            obtain ⟨c, rest, rfl⟩ := List.exists_cons_of_ne_nil some
            have inside := identifier c List.mem_cons_self
            rw [uniform c List.mem_cons_self] at inside
            cases inside
          rw [mask_gap_append nonempty identifier uniform, maskStretch, if_neg other]
      | true =>
          have ends : ∀ d ∈ parts.flatten.head?, isIdentifierChar d = false := by
            cases parts with
            | nil => simp
            | cons next parts =>
                obtain ⟨d, rest, rfl⟩ := List.exists_cons_of_ne_nil (h.uniform next (by simp)).1
                obtain ⟨c, more, rfl⟩ := List.exists_cons_of_ne_nil some
                have apart := turns.1 _ rfl c List.mem_cons_self d List.mem_cons_self
                rw [uniform c List.mem_cons_self] at apart
                simpa using apart.symm
          rw [mask_append nonempty identifier ends, mask_run nonempty uniform]

theorem mask_stretches (text : List Char) :
    mask name text = (stretches text).flatMap (maskStretch name) := by
  have cut := mask_flatten nonempty identifier (alternateSides_stretches text)
  rwa [stretches, List.flatten_splitBy] at cut

end Masking

/-! ## The stretches of a masked text -/

theorem exists_of_mem_maskStretch {name stretch : List Char} (nonempty : name ≠ [])
    (identifier : ∀ c ∈ name, isIdentifierChar c = true) {c : Char}
    (h : c ∈ maskStretch name stretch) :
    ∃ d ∈ stretch, isIdentifierChar c = isIdentifierChar d := by
  unfold maskStretch at h
  split at h
  · next same =>
      subst same
      obtain ⟨d, rest, rfl⟩ := List.exists_cons_of_ne_nil nonempty
      have masked : ∀ c ∈ maskedName, isIdentifierChar c = true :=
        List.all_eq_true.mp (by decide)
      exact ⟨d, List.mem_cons_self, (masked c h).trans (identifier d List.mem_cons_self).symm⟩
  · exact ⟨c, h, rfl⟩

theorem maskStretch_ne_nil {name stretch : List Char} (some : stretch ≠ []) :
    maskStretch name stretch ≠ [] := by
  unfold maskStretch
  split
  · decide
  · exact some

theorem AlternateSides.map_maskStretch {name : List Char} (nonempty : name ≠ [])
    (identifier : ∀ c ∈ name, isIdentifierChar c = true) {parts : List (List Char)}
    (h : AlternateSides parts) : AlternateSides (parts.map (maskStretch name)) where
  uniform := by
    intro part member
    obtain ⟨stretch, inParts, rfl⟩ := List.mem_map.mp member
    obtain ⟨some, side, uniform⟩ := h.uniform stretch inParts
    refine ⟨maskStretch_ne_nil some, side, fun c inMasked => ?_⟩
    obtain ⟨d, inStretch, same⟩ := exists_of_mem_maskStretch nonempty identifier inMasked
    exact same.trans (uniform d inStretch)
  turns := by
    refine (List.isChain_map _).mpr (h.turns.imp ?_)
    intro part next turn c inPart d inNext
    obtain ⟨c', inStretch, sameC⟩ := exists_of_mem_maskStretch nonempty identifier inPart
    obtain ⟨d', inNextStretch, sameD⟩ := exists_of_mem_maskStretch nonempty identifier inNext
    rw [sameC, sameD]
    exact turn c' inStretch d' inNextStretch

/-- Masking moves no end of a stretch: it replaces whole stretches by whole stretches. -/
theorem stretches_mask {name : List Char} (nonempty : name ≠ [])
    (identifier : ∀ c ∈ name, isIdentifierChar c = true) (text : List Char) :
    stretches (mask name text) = (stretches text).map (maskStretch name) := by
  refine stretches_eq_iff.mpr
    ⟨?_, (alternateSides_stretches text).map_maskStretch nonempty identifier⟩
  rw [mask_stretches nonempty identifier, List.flatMap_def]

theorem maskStretch_maskStretch (name stretch : List Char) :
    maskStretch name (maskStretch name stretch) = maskStretch name stretch := by
  by_cases same : stretch = name
  · rw [maskStretch, maskStretch, if_pos same, ite_self]
  · have kept : maskStretch name stretch = stretch := if_neg same
    rw [kept, kept]

theorem maskStretch_ne {name : List Char} (unlike : name ≠ maskedName) (stretch : List Char) :
    maskStretch name stretch ≠ name := by
  unfold maskStretch
  split
  · exact unlike.symm
  · next other => exact other

/-- Masking is the substitution of the name run by run: the runs that are the name are replaced, all
    other characters stay where they are. A second pass finds nothing to replace, and no run is the
    name any more. -/
theorem mask_runwise {name : List Char} (nonempty : name ≠ [])
    (identifier : ∀ c ∈ name, isIdentifierChar c = true) (text : List Char) :
    mask name text = (stretches text).flatMap (maskStretch name) ∧
      mask name (mask name text) = mask name text ∧
      (name ≠ maskedName → name ∉ stretches (mask name text)) := by
  have once := mask_stretches nonempty identifier text
  refine ⟨once, ?_, fun unlike member => ?_⟩
  · rw [mask_stretches nonempty identifier (mask name text), stretches_mask nonempty identifier,
      List.flatMap_map, once]
    exact List.flatMap_congr fun stretch _ => maskStretch_maskStretch name stretch
  · rw [stretches_mask nonempty identifier] at member
    obtain ⟨stretch, -, same⟩ := List.mem_map.mp member
    exact maskStretch_ne unlike stretch same

/-- A name that repeats within a word, overlaps itself there, or stands beside a number sign. -/
theorem mask_repeatedLetters :
    "ana".toList ≠ [] ∧ (∀ c ∈ "ana".toList, isIdentifierChar c = true) ∧
      "ana".toList ≠ maskedName ∧
      stretches "ana(anana,²ana)ana".toList =
        ["ana".toList, "(".toList, "anana".toList, ",".toList, "²ana".toList, ")".toList, "ana".toList] ∧
      mask "ana".toList "ana(anana,²ana)ana".toList = "sub_0(anana,²ana)sub_0".toList ∧
      mask "ana".toList (mask "ana".toList "ana(anana,²ana)ana".toList) =
        mask "ana".toList "ana(anana,²ana)ana".toList ∧
      "ana".toList ∉ stretches (mask "ana".toList "ana(anana,²ana)ana".toList) := by
  have nonempty : "ana".toList ≠ [] := by decide
  have identifier : ∀ c ∈ "ana".toList, isIdentifierChar c = true :=
    List.all_eq_true.mp (by decide)
  have unlike : "ana".toList ≠ maskedName := by decide
  have cut : stretches "ana(anana,²ana)ana".toList = ["ana".toList, "(".toList, "anana".toList,
    ",".toList, "²ana".toList, ")".toList, "ana".toList] := by decide
  obtain ⟨runwise, again, gone⟩ := mask_runwise nonempty identifier "ana(anana,²ana)ana".toList
  refine ⟨nonempty, identifier, unlike, cut, ?_, again, gone unlike⟩
  rw [runwise, cut]
  decide

end SymbolCorpus.PseudoCode
