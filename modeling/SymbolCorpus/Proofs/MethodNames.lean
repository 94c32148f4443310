import Mathlib.Data.List.Basic
import Mathlib.Data.List.TakeWhile
import SymbolCorpus.Proofs.BracketMatching

/-! # Method names of signatures

A signature is a return type, scopes, a method, template arguments, parameters and what follows them.
Its method name is the method, but for one case: without scopes, a return type with a double
colon outside of brackets is taken for a scope, and its last component for the method.
-/

namespace SymbolCorpus

open Text

namespace Text

/-! ## Cutting at the first and at the last separator -/

variable {separator text before after : List Char}

theorem cutAt_eq_some (h : cutAt separator text = some (before, after)) :
    text = before ++ separator ++ after := by
  induction text generalizing before with
  | nil =>
      unfold cutAt at h
      split at h
      · next empty =>
          cases h
          simpa using empty
      · cases h
  | cons c rest ih =>
      unfold cutAt at h
      split at h
      · next whole =>
          cases h
          rw [List.isPrefixOf?_eq_some_iff_append_eq] at whole
          exact whole.symm
      · obtain ⟨⟨inner, outer⟩, cut, same⟩ := Option.map_eq_some_iff.mp h
        cases same
        rw [ih cut]
        rfl

theorem length_le_of_cutAt (h : cutAt separator text = some (before, after))
    {other behind : List Char} (whole : text = other ++ separator ++ behind) :
    before.length ≤ other.length := by
  induction text generalizing before other with
  | nil =>
      unfold cutAt at h
      split at h
      · cases h
        exact Nat.zero_le _
      · cases h
  | cons c rest ih =>
      unfold cutAt at h
      split at h
      · cases h
        exact Nat.zero_le _
      · next noPrefix =>
          obtain ⟨⟨inner, outer⟩, cut, same⟩ := Option.map_eq_some_iff.mp h
          cases same
          cases other with
          | nil =>
              rw [List.nil_append] at whole
              rw [List.isPrefixOf?_eq_some_iff_append_eq.mpr whole.symm] at noPrefix
              cases noPrefix
          | cons d others =>
              cases whole
              exact Nat.succ_le_succ (ih cut rfl)

theorem exists_cutAt (separator before after : List Char) :
    ∃ cut, cutAt separator (before ++ separator ++ after) = some cut := by
  induction before with
  | nil =>
      cases separator with
      | nil => cases after <;> exact ⟨_, rfl⟩
      | cons c separator =>
          have starts : (c :: separator).isPrefixOf? (c :: (separator ++ after)) = some after :=
            List.isPrefixOf?_eq_some_iff_append_eq.mpr rfl
          exact ⟨([], after), by simp [cutAt, starts]⟩
  | cons c rest ih =>
      obtain ⟨⟨inner, outer⟩, cut⟩ := ih
      rw [List.cons_append, List.cons_append, cutAt]
      split
      · exact ⟨_, rfl⟩
      · exact ⟨_, by rw [cut]; rfl⟩

/-- The text is cut at its last separator: what stands behind it is no longer than what stands behind
    any other. -/
structure IsLastCut (separator text before after : List Char) : Prop where
  whole : text = before ++ separator ++ after
  last : ∀ before' after', text = before' ++ separator ++ after' → after.length ≤ after'.length

theorem cutAtLast_eq_some_iff :
    cutAtLast separator text = some (before, after) ↔ IsLastCut separator text before after := by
  constructor
  · intro h
    obtain ⟨⟨behind, ahead⟩, cut, same⟩ := Option.map_eq_some_iff.mp h
    cases same
    constructor
    · have whole := congrArg List.reverse (cutAt_eq_some cut)
      simpa using whole
    · intro before' after' whole
      have turned := congrArg List.reverse whole
      rw [List.reverse_append, List.reverse_append, ← List.append_assoc] at turned
      have shortest := length_le_of_cutAt cut turned
      simpa using shortest
  · rintro ⟨rfl, last⟩
    have turned : (before ++ separator ++ after).reverse =
        after.reverse ++ separator.reverse ++ before.reverse := by simp
    obtain ⟨⟨behind, ahead⟩, cut⟩ :=
      exists_cutAt separator.reverse after.reverse before.reverse
    have again := congrArg List.reverse (cutAt_eq_some cut)
    have notLonger := length_le_of_cutAt cut rfl
    have notShorter := last ahead.reverse behind.reverse (by simpa using again)
    have lengths : after.length = behind.reverse.length := by
      rw [List.length_reverse] at notLonger notShorter ⊢
      omega
    have same : before ++ separator ++ after = ahead.reverse ++ separator ++ behind.reverse := by
      simpa using again
    obtain ⟨upTo, behindSame⟩ := List.append_inj' same lengths
    have aheadSame : before = ahead.reverse := List.append_cancel_right upTo
    rw [cutAtLast, turned, cut, behindSame, aheadSame]
    rfl

theorem cutAtLast_eq_none_iff :
    cutAtLast separator text = none ↔ ∀ before after, text ≠ before ++ separator ++ after := by
  constructor
  · rintro h before after rfl
    have turned : (before ++ separator ++ after).reverse =
        after.reverse ++ separator.reverse ++ before.reverse := by simp
    obtain ⟨cut, found⟩ :=
      exists_cutAt separator.reverse after.reverse before.reverse
    rw [cutAtLast, turned, found] at h
    cases h
  · intro h
    cases cut : cutAtLast separator text with
    | none => rfl
    | some parts => exact absurd (cutAtLast_eq_some_iff.mp cut).whole (h _ _)

theorem separator_before {plain other behind : List Char} (apart : ∀ c ∈ plain, c ∉ separator)
    (present : separator ≠ []) (whole : text ++ plain = other ++ separator ++ behind) :
    ∃ rest, behind = rest ++ plain ∧ text = other ++ separator ++ rest := by
  rcases List.append_eq_append_iff.mp whole with ⟨middle, same, rest⟩ | ⟨middle, same, rest⟩
  · rcases List.eq_nil_or_concat middle with rfl | ⟨start, last, rfl⟩
    · exact ⟨[], by simpa using rest.symm, by simpa using same.symm⟩
    · -- The last character of the separator would stand in the part that has none.
      obtain ⟨front, final, rfl⟩ := (List.eq_nil_or_concat separator).resolve_left present
      have here : final = last := by
        rw [List.concat_eq_append, ← List.append_assoc, List.concat_eq_append,
          ← List.append_assoc] at same
        simpa using (List.append_inj' same rfl).2
      exact absurd (by simp [here]) (apart last (by simp [rest]))
  · exact ⟨middle, rest, same⟩

theorem IsLastCut.append (h : IsLastCut separator text before after) {plain : List Char}
    (apart : ∀ c ∈ plain, c ∉ separator) (present : separator ≠ []) :
    IsLastCut separator (text ++ plain) before (after ++ plain) := by
  constructor
  · rw [h.whole, List.append_assoc]
  · intro before' after' whole
    obtain ⟨rest, rfl, same⟩ := separator_before apart present whole
    have shortest := h.last before' rest same
    rw [List.length_append, List.length_append]
    omega

theorem cutAtLast_append_eq_none (h : cutAtLast separator text = none) {plain : List Char}
    (apart : ∀ c ∈ plain, c ∉ separator) (present : separator ≠ []) :
    cutAtLast separator (text ++ plain) = none := by
  rw [cutAtLast_eq_none_iff] at h ⊢
  intro before after whole
  obtain ⟨rest, -, same⟩ := separator_before apart present whole
  exact h before rest same

theorem isLastCut_at_end (before : List Char) :
    IsLastCut separator (before ++ separator) before [] :=
  ⟨by simp, fun _ _ _ => Nat.zero_le _⟩

end Text

/-! ## The form of a signature -/

/-- The characters that have a part in the form of a signature. -/
def marks : List Char := "<>()[]\x60\x27 :*~".toList

/-- A name: a text that is not empty, of characters that have no part in the form. -/
def IsName (name : List Char) : Prop := name ≠ [] ∧ ∀ c ∈ name, c ∉ marks

instance : DecidablePred IsName := fun name =>
  decidable_of_iff (name ≠ [] ∧ name.any marks.contains = false) (by simp [IsName])

/-- Template arguments, or nothing. -/
def IsArguments (text : List Char) : Prop :=
  text = [] ∨ ∃ inner inside, Brackets.Nested inner inside ∧ text = '<' :: inner ++ ['>']

/-- A signature by its parts: what it returns, the scopes with their template arguments, the method,
    its template arguments, what stands between the parentheses, and what follows them. -/
structure Signature where
  returns : Option (List Char)
  scopes : List (List Char × List Char)
  method : List Char
  arguments : List Char
  parameters : List Char
  suffix : List Char
  deriving Repr, DecidableEq

namespace Signature

/-- The return type with the space behind it, when there is one. -/
def returnText : Option (List Char) → List Char
  | none => []
  | some written => written ++ [' ']

/-- The scopes, each with a double colon behind it. -/
def scopeText (scopes : List (List Char × List Char)) : List Char :=
  scopes.flatMap fun (name, arguments) => name ++ arguments ++ "::".toList

/-- The signature up to its last closing parenthesis, without that. -/
def opening (signature : Signature) : List Char :=
  returnText signature.returns ++ scopeText signature.scopes ++ signature.method ++
    signature.arguments ++ '(' :: signature.parameters

def text (signature : Signature) : List Char := signature.opening ++ ')' :: signature.suffix

/-- The parts have their forms. -/
structure WellFormed (signature : Signature) : Prop where
  returned : ∀ written ∈ signature.returns, ∃ outside, Brackets.Nested written outside ∧ ' ' ∉ outside
  qualified : ∀ scope ∈ signature.scopes, IsName scope.1 ∧ IsArguments scope.2
  named : IsName signature.method
  lettered : signature.method.any isAlphabetic = true
  applied : IsArguments signature.arguments
  passed : ∃ inside, Brackets.Nested signature.parameters inside
  trailed : ')' ∉ signature.suffix ∧ ':' ∉ signature.suffix

/-! ## What is outside of brackets -/

variable {signature : Signature} {name arguments : List Char}

theorem mem_marks_of_isBracket {c : Char} (h : Brackets.isBracket c = true) : c ∈ marks := by
  have kinds : ∀ brackets ∈ Brackets.nesting, brackets.opening ∈ marks ∧ brackets.closing ∈ marks := by
    decide
  obtain ⟨brackets, kind, same⟩ := List.any_eq_true.mp h
  rw [Bool.or_eq_true, decide_eq_true_iff, decide_eq_true_iff] at same
  rcases same with rfl | rfl
  · exact (kinds brackets kind).1
  · exact (kinds brackets kind).2

theorem plain_of_isName (h : IsName name) : name.any Brackets.isBracket = false :=
  List.any_eq_false.mpr fun c member bracket => h.2 c member (mem_marks_of_isBracket bracket)

theorem nested_of_isArguments (h : IsArguments arguments) : Brackets.Nested arguments [] := by
  rcases h with rfl | ⟨inner, inside, nested, rfl⟩
  · exact .nil
  · exact .region (show Brackets.angle ∈ Brackets.nesting by decide) nested .nil

/-- The names of the scopes, each with a double colon behind it. -/
def scopeNames (scopes : List (List Char × List Char)) : List Char :=
  scopes.flatMap fun (name, _) => name ++ "::".toList

theorem nested_scopeText {scopes : List (List Char × List Char)}
    (h : ∀ scope ∈ scopes, IsName scope.1 ∧ IsArguments scope.2) :
    Brackets.Nested (scopeText scopes) (scopeNames scopes) := by
  induction scopes with
  | nil => exact .nil
  | cons scope scopes ih =>
      rw [List.forall_mem_cons] at h
      obtain ⟨⟨isName, isArguments⟩, others⟩ := h
      have name := Brackets.Nested.of_plain (plain_of_isName isName)
      have colons : Brackets.Nested "::".toList "::".toList := .of_plain (by decide)
      have whole :=
        (name.append ((nested_of_isArguments isArguments).append colons)).append (ih others)
      simpa [scopeText, scopeNames] using whole

/-- Outside of its brackets a signature has what is outside of them in its return type, the names of its
    scopes and its method. -/
theorem nested_opening (h : signature.WellFormed) {outside : List Char}
    (returned : Brackets.Nested (returnText signature.returns) outside) :
    Brackets.Nested (signature.opening ++ [')'])
      (outside ++ scopeNames signature.scopes ++ signature.method) := by
  obtain ⟨inside, passed⟩ := h.passed
  have method := Brackets.Nested.of_plain (plain_of_isName h.named)
  have parameters : Brackets.Nested ('(' :: signature.parameters ++ [')']) [] :=
    .region (show Brackets.round ∈ Brackets.nesting by decide) passed .nil
  have whole := (returned.append (nested_scopeText h.qualified)).append
    (method.append ((nested_of_isArguments h.applied).append parameters))
  simpa [opening] using whole

theorem upToParameters?_text (h : signature.WellFormed) :
    upToParameters? signature.text = some (signature.opening ++ [')']) := by
  obtain ⟨noParenthesis, noColon⟩ := h.trailed
  have tail : (signature.text.reverse.takeWhile (· ≠ ')')).reverse = signature.suffix := by
    have turned : signature.text.reverse =
        signature.suffix.reverse ++ ')' :: signature.opening.reverse := by simp [text]
    rw [turned, List.takeWhile_append_of_pos]
    · simp
    · intro c member
      exact decide_eq_true fun same => noParenthesis (by simpa [same] using member)
  have front : signature.text.take (signature.text.length - signature.suffix.length) =
      signature.opening ++ [')'] := by
    have cut : signature.text = (signature.opening ++ [')']) ++ signature.suffix := by simp [text]
    rw [cut, List.length_append, Nat.add_sub_cancel, List.take_left]
  have closes : ')' ∈ signature.text := by simp [text]
  simp only [upToParameters?, tail, front]
  simp [closes, noColon]

theorem apart_of_isName (h : IsName name) {c : Char} (mark : c ∈ marks) : c ∉ name :=
  fun member => h.2 c member mark

theorem grave_strip_append (h : signature.WellFormed) (returned : List Char) :
    Brackets.grave.strip (returned ++ (scopeNames signature.scopes ++ signature.method)) =
      Brackets.grave.strip returned ++ (scopeNames signature.scopes ++ signature.method) := by
  have apart {c : Char} (mark : c ∈ marks) (noColon : c ≠ ':') :
      c ∉ scopeNames signature.scopes ++ signature.method := by
    simp only [scopeNames, List.mem_append, List.mem_flatMap, not_or, not_exists, not_and]
    refine ⟨fun scope member => ⟨apart_of_isName (h.qualified scope member).1 mark, ?_⟩,
      apart_of_isName h.named mark⟩
    simp [noColon]
  exact Brackets.strip_append (by decide) (apart (by decide) (by decide))
    (apart (by decide) (by decide)) returned

/-- What is left of a signature without its brackets: what is left of its return type, the names of its
    scopes, and its method. -/
theorem stripBrackets_opening (h : signature.WellFormed) :
    stripBrackets (signature.opening ++ [')']) =
      returnText (signature.returns.map stripBrackets) ++
        (scopeNames signature.scopes ++ signature.method) := by
  cases returns : signature.returns with
  | none =>
      have returned : Brackets.Nested (returnText signature.returns) [] := by
        rw [returns]
        exact .nil
      have nested := nested_opening h returned
      have nothing : Brackets.grave.strip [] = [] :=
        List.sublist_nil.mp (Brackets.strip_sublist Brackets.grave [])
      rw [List.nil_append] at nested
      rw [stripBrackets_of_nested nested, ← List.nil_append (scopeNames _ ++ _), grave_strip_append h,
        nothing]
      rfl
  | some written =>
      obtain ⟨outside, nestedWritten, -⟩ := h.returned written returns
      have space : Brackets.Nested [' '] [' '] := .of_plain (by decide)
      have returned : Brackets.Nested (returnText signature.returns) (outside ++ [' ']) := by
        rw [returns]
        exact nestedWritten.append space
      have nested := nested_opening h returned
      rw [stripBrackets_of_nested nested, List.append_assoc, grave_strip_append h,
        Brackets.strip_append (by decide) (by decide) (by decide),
        ← stripBrackets_of_nested nestedWritten]
      rfl

/-! ## The component that is looked at -/

theorem takeWhile_of_apart {text : List Char} (h : ' ' ∉ text) (rest : List Char) :
    (text ++ ' ' :: rest).takeWhile (· ≠ ' ') = text := by
  rw [List.takeWhile_append_of_pos]
  · simp
  · exact fun c member => decide_eq_true fun same => h (same ▸ member)

theorem lastComponent_of_isLastCut {text before last : List Char}
    (h : IsLastCut "::".toList text before last) :
    lastComponent text = last.takeWhile (· ≠ ' ') := by
  rw [lastComponent, cutAtLast_eq_some_iff.mpr h]

theorem noSeparator_of_isName (h : IsName name) : ∀ c ∈ name, c ∉ "::".toList := by
  intro c member colon
  obtain rfl : c = ':' := by simpa using colon
  exact apart_of_isName h (by decide) member

theorem takeWhile_of_isName (h : IsName name) : name.takeWhile (· ≠ ' ') = name :=
  List.takeWhile_eq_self_iff.mpr fun _ member => decide_eq_true fun same =>
    apart_of_isName h (by decide) (same ▸ member)

theorem lastComponent_scoped (h : IsName name) (front : List Char) :
    lastComponent (front ++ "::".toList ++ name) = name := by
  have cut := (isLastCut_at_end front).append (noSeparator_of_isName h) (by decide)
  rw [lastComponent_of_isLastCut cut, List.nil_append, takeWhile_of_isName h]

theorem lastComponent_last (h : IsName name) {front : List Char}
    (noCut : cutAtLast "::".toList front = none)
    (space : front = [] ∨ ∃ before, front = before ++ [' ']) :
    lastComponent (front ++ name) = name := by
  have noBlank : ' ' ∉ name.reverse := by simpa using apart_of_isName h (by decide)
  have word : (front ++ name).reverse.takeWhile (· ≠ ' ') = name.reverse := by
    rcases space with rfl | ⟨before, rfl⟩
    · exact List.takeWhile_eq_self_iff.mpr fun _ member =>
        decide_eq_true fun same => noBlank (same ▸ member)
    · have turned : (before ++ [' '] ++ name).reverse = name.reverse ++ ' ' :: before.reverse := by simp
      rw [turned, takeWhile_of_apart noBlank]
  rw [lastComponent, cutAtLast_append_eq_none noCut (noSeparator_of_isName h) (by decide)]
  exact (congrArg List.reverse word).trans name.reverse_reverse

/-- Without scopes the last component of the return type is taken for the method. -/
theorem lastComponent_misread {returned before last : List Char} (h : IsName name)
    (cut : IsLastCut "::".toList returned before last) (noBlank : ' ' ∉ returned) :
    lastComponent (returned ++ ' ' :: name) = last := by
  have apart : ∀ c ∈ ' ' :: name, c ∉ "::".toList :=
    List.forall_mem_cons.mpr ⟨by decide, noSeparator_of_isName h⟩
  have within : ' ' ∉ last := fun member => noBlank (by simp [cut.whole, member])
  rw [lastComponent_of_isLastCut (cut.append apart (by decide)), takeWhile_of_apart within]

theorem bareName_of_isName (h : IsName name) : bareName name = name := by
  have noStar : name.reverse.dropWhile (· = '*') = name.reverse :=
    List.dropWhile_eq_self_iff.mpr fun present starred =>
      apart_of_isName h (show '*' ∈ marks by decide) (by
        rw [← of_decide_eq_true starred]
        exact List.mem_reverse.mp (List.getElem_mem present))
  rw [bareName, noStar, List.reverse_reverse]
  split
  · next rest =>
      exact absurd (List.mem_cons_self) (apart_of_isName h (show '~' ∈ marks by decide))
  · rfl

theorem bareName_subset (name : List Char) : bareName name ⊆ name := by
  have kept : (name.reverse.dropWhile (· = '*')).reverse ⊆ name := by
    intro c member
    have inside := (List.dropWhile_sublist _).subset (List.mem_reverse.mp member)
    exact List.mem_reverse.mp inside
  intro c member
  unfold bareName at member
  split at member
  · next rest tilde =>
      rw [tilde] at kept
      exact kept (List.mem_cons_of_mem _ member)
  · exact kept member

/-! ## The method -/

/-- There are no scopes, and outside of its brackets the return type has a double colon, the last one
    before this component. -/
def Misread (signature : Signature) (last : List Char) : Prop :=
  signature.scopes = [] ∧ ∃ written before, signature.returns = some written ∧
    IsLastCut "::".toList (stripBrackets written) before last

theorem noBlank_of_returned (h : signature.WellFormed) {written : List Char}
    (returns : signature.returns = some written) : ' ' ∉ stripBrackets written := by
  obtain ⟨outside, nested, noBlank⟩ := h.returned written returns
  rw [stripBrackets_of_nested nested]
  exact fun member => noBlank ((Brackets.strip_sublist Brackets.grave outside).subset member)

/-- The component that is looked at is the method, unless the signature is misread. -/
theorem lastComponent_opening (h : signature.WellFormed) (read : ∀ last, ¬ signature.Misread last) :
    lastComponent (stripBrackets (signature.opening ++ [')'])) = signature.method := by
  rw [stripBrackets_opening h]
  rcases List.eq_nil_or_concat signature.scopes with noScopes | ⟨scopes, ⟨name, arguments⟩, behind⟩
  · rw [noScopes]
    cases returns : signature.returns with
    | none => exact lastComponent_last h.named rfl (.inl rfl)
    | some written =>
        refine lastComponent_last h.named ?_ (.inr ⟨stripBrackets written, rfl⟩)
        cases cut : cutAtLast "::".toList (stripBrackets written) with
        | none => exact cutAtLast_append_eq_none cut (by simp) (by decide)
        | some parts =>
            exact absurd ⟨noScopes, written, parts.1, returns, cutAtLast_eq_some_iff.mp cut⟩
              (read parts.2)
  · have front : returnText (signature.returns.map stripBrackets) ++
        (scopeNames signature.scopes ++ signature.method) =
        returnText (signature.returns.map stripBrackets) ++ scopeNames scopes ++ name ++ "::".toList ++
          signature.method := by
      simp [behind, scopeNames]
    rw [front, lastComponent_scoped h.named]

theorem lastComponent_of_misread (h : signature.WellFormed) {last : List Char}
    (misread : signature.Misread last) :
    lastComponent (stripBrackets (signature.opening ++ [')'])) = last := by
  obtain ⟨noScopes, written, before, returns, cut⟩ := misread
  have front : returnText (signature.returns.map stripBrackets) ++
      (scopeNames signature.scopes ++ signature.method) =
      stripBrackets written ++ ' ' :: signature.method := by
    simp [returns, noScopes, returnText, scopeNames]
  rw [stripBrackets_opening h, front]
  exact lastComponent_misread h.named cut (noBlank_of_returned h returns)

theorem methodName?_eq (h : signature.WellFormed) {component : List Char}
    (last : lastComponent (stripBrackets (signature.opening ++ [')'])) = component) :
    methodName? signature.text =
      if component.any isAlphabetic then some (bareName component) else none := by
  rw [methodName?, upToParameters?_text h, ← last]
  rfl

/-- The method name of a signature is its method, unless it has no scopes and a double colon in its
    return type. Then it is the last component of the return type without stars and a tilde, and there is
    none when that has no letter. -/
theorem methodName?_text (h : signature.WellFormed) :
    (methodName? signature.text = some signature.method ↔
      ∀ last, signature.Misread last → bareName last = signature.method) ∧
    ∀ last, signature.Misread last → methodName? signature.text =
      if last.any isAlphabetic then some (bareName last) else none := by
  have misread (last : List Char) (h' : signature.Misread last) : methodName? signature.text =
      if last.any isAlphabetic then some (bareName last) else none :=
    methodName?_eq h (lastComponent_of_misread h h')
  refine ⟨⟨fun found last h' => ?_, fun same => ?_⟩, misread⟩
  · rw [misread last h'] at found
    split at found
    · exact Option.some.inj found
    · cases found
  · by_cases read : ∃ last, signature.Misread last
    · obtain ⟨last, h'⟩ := read
      have lettered : last.any isAlphabetic = true := by
        obtain ⟨c, member, letter⟩ := List.any_eq_true.mp h.lettered
        rw [← same last h'] at member
        exact List.any_eq_true.mpr ⟨c, bareName_subset last member, letter⟩
      rw [misread last h', if_pos lettered, same last h']
    · rw [methodName?_eq h (lastComponent_opening h (not_exists.mp read)), if_pos h.lettered,
        bareName_of_isName h.named]

/-- A function in no scope whose return type is in one. -/
def stringMaker : Signature where
  returns := some "std::string".toList
  scopes := []
  method := "foo".toList
  arguments := []
  parameters := "int".toList
  suffix := []

theorem wellFormed_stringMaker : stringMaker.WellFormed where
  returned := by
    rintro written ⟨⟩
    exact ⟨"std::string".toList, .of_plain (by decide), by decide⟩
  qualified := nofun
  named := by decide
  lettered := by decide
  applied := .inl rfl
  passed := ⟨"int".toList, .of_plain (by decide)⟩
  trailed := by decide

theorem misread_stringMaker : stringMaker.Misread "string".toList := by
  refine ⟨rfl, "std::string".toList, "std".toList, rfl, ?_⟩
  rw [stripBrackets_of_nested (.of_plain (by decide))]
  exact cutAtLast_eq_some_iff.mp (by decide +kernel)

/-- Its method name is the last component of its return type. -/
theorem methodName?_stringMaker : stringMaker.text = "std::string foo(int)".toList ∧
    methodName? stringMaker.text = some "string".toList ∧
    methodName? stringMaker.text ≠ some stringMaker.method := by
  obtain ⟨right, misread⟩ := methodName?_text wellFormed_stringMaker
  refine ⟨by decide, ?_, fun same => ?_⟩
  · rw [misread "string".toList misread_stringMaker]
    decide
  · exact absurd (right.mp same "string".toList misread_stringMaker) (by decide)

end Signature

end SymbolCorpus
