import Mathlib.Data.List.SplitBy
import SymbolCorpus.Proofs.Acronyms
import SymbolCorpus.Proofs.Rendering

/-! # Words of a shown name

A shown name is a text of letters that lower case leaves alone, with a space between its tokens. Nearly
always its words are its tokens. But a few capitals have no lower case: two of them in a row are an
acronym still, one of them begins a word, and what lies between two acronyms is one word when it has a
capital and no small letter.
-/

namespace SymbolCorpus.Identifier

open Text

/-- A letter that lower case leaves alone. -/
structure IsLowerLetter (c : Char) : Prop where
  letter : isAlphabetic c = true
  lowered : IsLowered c

theorem IsLowerLetter.ne_separator {c : Char} (lower : IsLowerLetter c) : c ≠ separator := by
  rintro rfl
  have letter := lower.letter
  rw [isAlphabetic_separator] at letter
  cases letter

/-! ## Reading tokens again -/

/-- The words of parts of tokens that no acronym lies between. With a capital and no small letter they
    are one word; otherwise each of them is cut before its capitals. -/
def stretchWords (parts : List (List Char)) : List (List Char) :=
  if isAllUpper parts.flatten then [parts.flatten]
  else parts.flatMap (·.splitBy fun _ next => !isUppercase next)

/-- The words of parts of tokens behind a stretch of parts that goes on. An acronym is a word and ends
    the stretch. -/
def readParts (stretch : List (List Char)) : List (List Char) → List (List Char)
  | [] => stretchWords stretch
  | part :: parts =>
      if startsAcronym part then stretchWords stretch ++ part :: readParts [] parts
      else readParts (stretch ++ [part]) parts

/-- The words that are found in a shown name: its tokens are cut at their acronyms first. -/
def rereadWords (tokens : List (List Char)) : List (List Char) := readParts [] (tokens.flatMap chunks)

/-! ## Words of one chunk -/

theorem finishWord_append (current : List Char) (words others : List (List Char)) :
    finishWord current (words ++ others) = finishWord current words ++ others := by
  unfold finishWord
  split <;> rfl

theorem camelWordsFrom_append_separator (current text rest : List Char) :
    camelWordsFrom current (text ++ separator :: rest) =
      camelWordsFrom current text ++ camelWords rest := by
  induction text generalizing current with
  | nil =>
      have ended : camelWordsFrom current (separator :: rest) =
          finishWord current (camelWords rest) := by
        rw [camelWordsFrom, if_pos rfl, camelWords]
      exact ended.trans (finishWord_append current [] (camelWords rest))
  | cons c text ih =>
      rw [List.cons_append, camelWordsFrom, camelWordsFrom]
      split
      · rw [ih, finishWord_append]
      · split
        · rw [ih, finishWord_append]
        · exact ih _

theorem camelWords_joinWith (parts : List (List Char)) :
    camelWords (joinWith [separator] parts) = parts.flatMap camelWords := by
  induction parts with
  | nil => rfl
  | cons part parts ih =>
      cases parts with
      | nil => simp
      | cons next parts =>
          rw [joinWith_cons_cons, List.append_assoc, List.singleton_append, camelWords,
            camelWordsFrom_append_separator, ih]
          rfl

theorem camelWordsFrom_eq_splitBy {current text : List Char} (begun : current ≠ [])
    (small : current.IsChain fun _ next => (!isUppercase next) = true)
    (lower : ∀ c ∈ text, IsLowerLetter c) :
    camelWordsFrom current text = (current ++ text).splitBy fun _ next => !isUppercase next := by
  induction text generalizing current with
  | nil =>
      rw [List.append_nil, List.splitBy_of_isChain begun small, camelWordsFrom, finishWord,
        if_neg (by simpa using begun)]
  | cons c text ih =>
      have here := lower c List.mem_cons_self
      have later := fun d member => lower d (List.mem_cons_of_mem c member)
      rw [camelWordsFrom, if_neg here.ne_separator, here.lowered]
      split
      · next capital =>
          have cut := List.splitBy_append_cons (r := fun _ next => !isUppercase next) (l := current)
            (a := c) text (by simp [capital])
          rw [cut, List.splitBy_of_isChain begun small, ih (by simp) (.singleton c) later, finishWord,
            if_neg (by simpa using begun)]
          rfl
      · next notCapital =>
          have longer : (current ++ [c]).IsChain fun _ next => (!isUppercase next) = true := by
            rw [List.isChain_append]
            exact ⟨small, .singleton c, by simp [notCapital]⟩
          rw [ih (by simp) longer later, List.append_assoc, List.singleton_append]

theorem camelWords_eq_splitBy {text : List Char} (lower : ∀ c ∈ text, IsLowerLetter c) :
    camelWords text = text.splitBy fun _ next => !isUppercase next := by
  cases text with
  | nil => rfl
  | cons c text =>
      have here := lower c List.mem_cons_self
      have later := fun d member => lower d (List.mem_cons_of_mem c member)
      have first := camelWordsFrom_eq_splitBy (List.cons_ne_nil c []) (.singleton c) later
      rw [List.singleton_append] at first
      rw [← first, camelWords, camelWordsFrom, if_neg here.ne_separator, here.lowered]
      split <;> rfl

theorem any_joinWith {p : Char → Bool} {gap : Char} (other : p gap = false)
    (texts : List (List Char)) : (joinWith [gap] texts).any p = texts.flatten.any p := by
  rw [Bool.eq_iff_iff, List.any_eq_true, List.any_eq_true]
  have apart {c : Char} (holds : p c = true) : c ≠ gap := by
    rintro rfl
    rw [other] at holds
    cases holds
  constructor
  · rintro ⟨c, member, holds⟩
    exact ⟨c, List.mem_flatten.mpr ((mem_joinWith (apart holds) texts).mp member), holds⟩
  · rintro ⟨c, member, holds⟩
    exact ⟨c, (mem_joinWith (apart holds) texts).mpr (List.mem_flatten.mp member), holds⟩

theorem filter_joinWith {gap : Char} {texts : List (List Char)}
    (others : ∀ text ∈ texts, ∀ c ∈ text, c ≠ gap) :
    (joinWith [gap] texts).filter (· ≠ gap) = texts.flatten := by
  induction texts with
  | nil => rfl
  | cons text texts ih =>
      have kept : text.filter (· ≠ gap) = text :=
        List.filter_eq_self.mpr fun c member => by simpa using others text List.mem_cons_self c member
      have rest := ih fun later member => others later (List.mem_cons_of_mem text member)
      cases texts with
      | nil => simpa using kept
      | cons next texts =>
          rw [joinWith_cons_cons, List.filter_append, List.filter_append, kept, rest]
          simp

theorem lowercaseEach_of_lower {text : List Char} (lower : ∀ c ∈ text, IsLowerLetter c) :
    lowercaseEach text = text := by
  induction text with
  | nil => rfl
  | cons c text ih =>
      have first : lowercase c = [c] := (lower c List.mem_cons_self).lowered
      rw [lowercaseEach, List.flatMap_cons, first, List.singleton_append]
      exact congrArg _ (ih fun later member => lower later (List.mem_cons_of_mem c member))

theorem chunkWords_joinWith {parts : List (List Char)}
    (lower : ∀ part ∈ parts, ∀ c ∈ part, IsLowerLetter c) :
    chunkWords (joinWith [separator] parts) = stretchWords parts := by
  have allUpper : isAllUpper (joinWith [separator] parts) = isAllUpper parts.flatten := by
    rw [isAllUpper, isAllUpper, any_joinWith isUppercase_separator, any_joinWith (by decide)]
  unfold chunkWords stretchWords
  rw [allUpper]
  split
  · rw [filter_joinWith fun part member c inside => (lower part member c inside).ne_separator,
      lowercaseEach_of_lower]
    intro c member
    obtain ⟨part, inParts, inside⟩ := List.mem_flatten.mp member
    exact lower part inParts c inside
  · rw [camelWords_joinWith]
    exact List.flatMap_congr fun part member => camelWords_eq_splitBy (lower part member)

theorem stretchWords_filter (parts : List (List Char)) :
    stretchWords (parts.filter (!·.isEmpty)) = stretchWords parts := by
  have cut : (parts.filter (!·.isEmpty)).flatMap (·.splitBy fun _ next => !isUppercase next) =
      parts.flatMap (·.splitBy fun _ next => !isUppercase next) := by
    induction parts with
    | nil => rfl
    | cons part parts ih =>
        cases part with
        | nil => simpa using ih
        | cons c part => simp [ih]
  rw [stretchWords, stretchWords, List.flatten_filter_not_isEmpty, cut]

/-! ## Acronyms and separators -/

/-- A text without an acronym. -/
def IsFree (text : List Char) : Prop := beforeAcronym text = (text, [])

theorem isFree_cons_iff {c : Char} {text : List Char} :
    IsFree (c :: text) ↔ startsAcronym (c :: text) = false ∧ IsFree text := by
  unfold IsFree
  rw [beforeAcronym]
  cases startsAcronym (c :: text) with
  | true => simp
  | false => simp [Prod.ext_iff]

theorem IsFree.startsAcronym_eq {text : List Char} (free : IsFree text) :
    startsAcronym text = false := by
  cases text with
  | nil => rfl
  | cons c text => exact (isFree_cons_iff.mp free).1

theorem isFree_of_small {text : List Char} (small : ∀ c ∈ text, isUppercase c = false) :
    IsFree text := by
  induction text with
  | nil => rfl
  | cons c text ih =>
      have later := ih fun d member => small d (List.mem_cons_of_mem c member)
      refine isFree_cons_iff.mpr ⟨?_, later⟩
      cases text <;> simp [startsAcronym, small c List.mem_cons_self]

theorem isFree_beforeAcronym (text : List Char) : IsFree (beforeAcronym text).1 := by
  induction text with
  | nil => rfl
  | cons c text ih =>
      unfold beforeAcronym
      split
      · rfl
      · next noStart =>
          refine isFree_cons_iff.mpr ⟨?_, ih⟩
          -- The first two characters are those of the text.
          cases text with
          | nil => rfl
          | cons d text =>
              rw [beforeAcronym]
              split
              · rfl
              · simpa [startsAcronym] using noStart

theorem IsFree.beforeAcronym_append {text : List Char} (free : IsFree text) (rest : List Char) :
    beforeAcronym (text ++ separator :: rest) =
      (text ++ separator :: (beforeAcronym rest).1, (beforeAcronym rest).2) := by
  induction text with
  | nil =>
      have noStart : startsAcronym (separator :: rest) = false := by
        cases rest <;> simp [startsAcronym, isUppercase_separator]
      rw [List.nil_append, beforeAcronym, noStart]
      rfl
  | cons c text ih =>
      obtain ⟨noStart, later⟩ := isFree_cons_iff.mp free
      have none : startsAcronym (c :: (text ++ separator :: rest)) = false := by
        cases text with
        | nil => simp [startsAcronym, isUppercase_separator]
        | cons d text => exact noStart
      rw [List.cons_append, beforeAcronym, none, ih later]
      rfl

theorem beforeAcronym_append_of_found {text before after : List Char} {c : Char}
    (found : beforeAcronym text = (before, c :: after)) (rest : List Char) :
    beforeAcronym (text ++ rest) = (before, c :: after ++ rest) := by
  induction text generalizing before with
  | nil => cases found
  | cons d text ih =>
      rw [beforeAcronym] at found
      split at found
      · next starts =>
          cases found
          have still : startsAcronym (c :: after ++ rest) = true := by
            cases after with
            | nil => cases starts
            | cons => exact starts
          rw [List.cons_append] at still ⊢
          rw [beforeAcronym, if_pos still]
      · next noStart =>
          obtain ⟨rfl, left⟩ := Prod.mk.inj found
          have none : startsAcronym (d :: (text ++ rest)) = false := by
            cases text with
            | nil => cases left
            | cons => simpa [startsAcronym] using noStart
          rw [List.cons_append, beforeAcronym, none, ih (Prod.ext rfl left)]
          rfl

/-- Parts without acronyms are passed over. -/
theorem beforeAcronym_joinWith {parts : List (List Char)} (free : ∀ part ∈ parts, IsFree part)
    (text : List Char) (texts : List (List Char)) :
    beforeAcronym (joinWith [separator] (parts ++ text :: texts)) =
      (joinWith [separator] (parts ++ [(beforeAcronym (joinWith [separator] (text :: texts))).1]),
        (beforeAcronym (joinWith [separator] (text :: texts))).2) := by
  induction parts with
  | nil => simp
  | cons part parts ih =>
      have here := free part List.mem_cons_self
      have others := ih fun later member => free later (List.mem_cons_of_mem part member)
      obtain ⟨next, more, shape⟩ := List.exists_cons_of_ne_nil (l := parts ++ text :: texts) (by simp)
      obtain ⟨next', more', shape'⟩ := List.exists_cons_of_ne_nil
        (l := parts ++ [(beforeAcronym (joinWith [separator] (text :: texts))).1]) (by simp)
      rw [List.cons_append, List.cons_append, shape, shape', joinWith_cons_cons, joinWith_cons_cons,
        ← shape, ← shape', List.append_assoc, List.append_assoc, List.singleton_append,
        List.singleton_append, here.beforeAcronym_append, others]

theorem isFree_joinWith {parts : List (List Char)} (free : ∀ part ∈ parts, IsFree part) :
    IsFree (joinWith [separator] parts) := by
  induction parts with
  | nil => rfl
  | cons part parts ih =>
      have here := free part List.mem_cons_self
      have others : IsFree (joinWith [separator] parts) :=
        ih fun later member => free later (List.mem_cons_of_mem part member)
      cases parts with
      | nil => simpa using here
      | cons next parts =>
          rw [joinWith_cons_cons, List.append_assoc, List.singleton_append, IsFree,
            here.beforeAcronym_append, others]

/-! ## Acronyms in a text -/

theorem startsAcronym_of_found {text before after : List Char} {c : Char}
    (found : beforeAcronym text = (before, c :: after)) : startsAcronym (c :: after) = true := by
  induction text generalizing before with
  | nil => cases found
  | cons d text ih =>
      rw [beforeAcronym] at found
      split at found
      · next starts =>
          cases found
          exact starts
      · exact ih (Prod.ext rfl (Prod.mk.inj found).2)

theorem lower_of_found {text before after : List Char} {c : Char}
    (found : beforeAcronym text = (before, c :: after)) (lower : ∀ d ∈ text, IsLowerLetter d) :
    (∀ d ∈ before, IsLowerLetter d) ∧
      (∀ d ∈ (c :: after).takeWhile isUppercase, IsLowerLetter d) ∧
      ∀ d ∈ (c :: after).dropWhile isUppercase, IsLowerLetter d := by
  have whole := beforeAcronym_append text
  rw [found] at whole
  obtain ⟨lowerBefore, lowerAfter⟩ := List.forall_mem_append.mp (whole ▸ lower)
  exact ⟨lowerBefore, fun d inside => lowerAfter d ((List.takeWhile_sublist _).subset inside),
    fun d inside => lowerAfter d ((List.dropWhile_sublist _).subset inside)⟩

theorem isAcronym_takeWhile {text : List Char} (starts : startsAcronym text = true) :
    IsAcronym (text.takeWhile isUppercase) := by
  refine ⟨?_, fun c member => List.mem_takeWhile_imp member⟩
  match text, starts with
  | a :: b :: rest, starts =>
      rw [startsAcronym, Bool.and_eq_true] at starts
      simp [starts.1, starts.2]

theorem parted_append_of_startsSmall (text : List Char) {rest : List Char}
    (small : StartsSmall rest) :
    (text ++ rest).takeWhile isUppercase = text.takeWhile isUppercase ∧
      (text ++ rest).dropWhile isUppercase = text.dropWhile isUppercase ++ rest := by
  induction text with
  | nil =>
      cases rest with
      | nil => simp
      | cons c rest =>
          have notCapital : isUppercase c = false := small c rfl
          simp [notCapital]
  | cons c text ih => cases capital : isUppercase c <;> simp [capital, ih]

theorem exists_joinWith_cons (texts : List (List Char)) :
    ∃ rest, StartsSmall rest ∧ ∀ text, joinWith [separator] (text :: texts) = text ++ rest := by
  cases texts with
  | nil => exact ⟨[], nofun, fun text => by simp⟩
  | cons next texts =>
      refine ⟨separator :: joinWith [separator] (next :: texts), ?_, fun text => ?_⟩
      · intro c first
        cases first
        exact isUppercase_separator
      · rw [joinWith_cons_cons, List.append_assoc, List.singleton_append]

/-! ## All words -/

theorem flatMap_keepNonempty (chunk : List Char) (chunks : List (List Char)) :
    (keepNonempty chunk chunks).flatMap chunkWords = chunkWords chunk ++ chunks.flatMap chunkWords := by
  cases chunk with
  | nil => rfl
  | cons c chunk => rfl

theorem flatMap_chunkWords_of_found {text before after : List Char} {c : Char}
    (found : beforeAcronym text = (before, c :: after)) :
    (chunks text).flatMap chunkWords =
      chunkWords before ++ lowercaseEach ((c :: after).takeWhile isUppercase) ::
        (chunks ((c :: after).dropWhile isUppercase)).flatMap chunkWords := by
  have acronym := isAcronym_takeWhile (startsAcronym_of_found found)
  rw [chunks_of_found found, flatMap_keepNonempty, List.flatMap_cons, chunkWords_acronym acronym]
  rfl

theorem readParts_keepNonempty {part : List Char} (free : IsFree part)
    (parts later : List (List Char)) :
    readParts (parts.filter (!·.isEmpty)) (keepNonempty part later) =
      readParts ((parts ++ [part]).filter (!·.isEmpty)) later := by
  cases part with
  | nil => simp [keepNonempty]
  | cons c part => simp [keepNonempty, readParts, free.startsAcronym_eq]

theorem readParts_of_acronym {run : List Char} (acronym : IsAcronym run)
    (stretch parts : List (List Char)) :
    readParts stretch (run :: parts) = stretchWords stretch ++ run :: readParts [] parts := by
  have starts := acronym.starts []
  rw [List.append_nil] at starts
  rw [readParts, if_pos starts]

/-- After parts without acronyms, the words of tokens with separators between them are those that are
    read in the tokens. -/
theorem flatMap_chunkWords_joinWith (parts : List (List Char)) {tokens : List (List Char)}
    (free : ∀ part ∈ parts, IsFree part)
    (lower : ∀ text ∈ parts ++ tokens, ∀ c ∈ text, IsLowerLetter c) :
    (chunks (joinWith [separator] (parts ++ tokens))).flatMap chunkWords =
      readParts (parts.filter (!·.isEmpty)) (tokens.flatMap chunks) := by
  induction tokens generalizing parts with
  | nil =>
      rw [List.append_nil] at lower ⊢
      have whole : chunks (joinWith [separator] parts) =
          keepNonempty (joinWith [separator] parts) [] := by
        rw [chunks.eq_def, isFree_joinWith free]
      rw [whole, flatMap_keepNonempty, chunkWords_joinWith lower, ← stretchWords_filter]
      exact List.append_nil _
  | cons token tokens ihTokens =>
      rw [List.flatMap_cons]
      obtain ⟨rest, small, joined⟩ := exists_joinWith_cons tokens
      -- What an acronym leaves of a token is read as a token with no parts before it.
      fun_induction chunks token generalizing parts with
      | case1 token before found =>
          have whole := beforeAcronym_append token
          rw [found, List.append_nil] at whole
          subst whole
          have later := ihTokens (parts ++ [before])
            (by simpa [or_imp, forall_and] using ⟨free, found⟩) (by simpa using lower)
          rw [← keepNonempty_append, List.nil_append, readParts_keepNonempty found, ← later]
          simp
      | case2 token before c after found ih =>
          have isFree := isFree_beforeAcronym token
          rw [found] at isFree
          obtain ⟨lowerBefore, lowerRun, lowerLeft⟩ := lower_of_found found (lower token (by simp))
          have lowerParts : ∀ part ∈ parts ++ [before], ∀ d ∈ part, IsLowerLetter d :=
            List.forall_mem_append.mpr ⟨fun part member => lower part (List.mem_append_left _ member),
              List.forall_mem_singleton.mpr lowerBefore⟩
          have lowerLater : ∀ text ∈ (c :: after).dropWhile isUppercase :: tokens,
              ∀ d ∈ text, IsLowerLetter d :=
            List.forall_mem_cons.mpr ⟨lowerLeft, fun text member => lower text (by simp [member])⟩
          have later := ih [] (List.forall_mem_nil _) lowerLater
          have parted := beforeAcronym_joinWith free token tokens
          obtain ⟨taken, left⟩ := parted_append_of_startsSmall (c :: after) small
          rw [List.nil_append, joined] at later
          rw [joined, beforeAcronym_append_of_found found, List.cons_append] at parted
          rw [List.cons_append] at taken left
          rw [flatMap_chunkWords_of_found parted, chunkWords_joinWith lowerParts, ← stretchWords_filter,
            taken, left, lowercaseEach_of_lower lowerRun, later, ← keepNonempty_append,
            readParts_keepNonempty isFree]
          exact (readParts_of_acronym (isAcronym_takeWhile (startsAcronym_of_found found)) _ _).symm

theorem markSeparators_joinWith {tokens : List (List Char)}
    (letters : ∀ token ∈ tokens, ∀ c ∈ token, isAlphabetic c = true) :
    markSeparators (joinWith [' '] tokens) = joinWith [separator] tokens := by
  induction tokens with
  | nil => rfl
  | cons token tokens ih =>
      have first := markSeparators_of_letters (letters token List.mem_cons_self)
      have others := ih fun later member => letters later (List.mem_cons_of_mem token member)
      cases tokens with
      | nil => simpa using first
      | cons next tokens =>
          have gap : markSeparators [' '] = [separator] := by decide
          rw [joinWith_cons_cons, joinWith_cons_cons, markSeparators_append, markSeparators_append,
            first, gap, others]

/-- The words of a shown name are those that are read in its tokens. -/
theorem splitWords_joinWith {tokens : List (List Char)}
    (lower : ∀ token ∈ tokens, ∀ c ∈ token, IsLowerLetter c) :
    splitWords (joinWith [' '] tokens) = rereadWords tokens := by
  have letters := fun token member c inside => (lower token member c inside).letter
  rw [splitWords, markSeparators_joinWith letters]
  exact flatMap_chunkWords_joinWith [] (List.forall_mem_nil _) lower

example : rereadWords ["x𝐀𝐁".toList, "𝐂".toList, "中".toList, "𝐃y".toList] =
    ["x".toList, "𝐀𝐁".toList, "𝐂".toList, "中".toList, "𝐃y".toList] := by
  decide +kernel

example : rereadWords ["x𝐀𝐁".toList, "𝐂".toList, "中".toList] =
    ["x".toList, "𝐀𝐁".toList, "𝐂中".toList] := by
  decide +kernel

/-! ## Tokens without capitals -/

theorem chunks_of_isFree {text : List Char} (free : IsFree text) (nonempty : text ≠ []) :
    chunks text = [text] := by
  have kept : chunks text = keepNonempty text [] := by rw [chunks.eq_def, free]
  rw [kept, keepNonempty, if_neg (by simpa using nonempty)]

theorem readParts_of_isFree (stretch : List (List Char)) {parts : List (List Char)}
    (free : ∀ part ∈ parts, IsFree part) :
    readParts stretch parts = stretchWords (stretch ++ parts) := by
  induction parts generalizing stretch with
  | nil => rw [readParts, List.append_nil]
  | cons part parts ih =>
      have here := (free part List.mem_cons_self).startsAcronym_eq
      have others := fun later member => free later (List.mem_cons_of_mem part member)
      rw [readParts, if_neg (by simp [here]), ih _ others, List.append_assoc, List.singleton_append]

theorem splitBy_of_small {text : List Char} (nonempty : text ≠ [])
    (small : ∀ c ∈ text, isUppercase c = false) :
    text.splitBy (fun _ next => !isUppercase next) = [text] := by
  refine List.splitBy_of_isChain nonempty (List.Pairwise.isChain ?_)
  rw [List.pairwise_iff_forall_sublist]
  intro a b both
  simp [small b (both.subset (by simp))]

theorem rereadWords_of_small {tokens : List (List Char)} (nonempty : ∀ token ∈ tokens, token ≠ [])
    (small : ∀ token ∈ tokens, ∀ c ∈ token, isUppercase c = false) : rereadWords tokens = tokens := by
  have free := fun token member => isFree_of_small (small token member)
  have parts : tokens.flatMap chunks = tokens := by
    have each := fun token member => chunks_of_isFree (free token member) (nonempty token member)
    rw [List.flatMap_congr each]
    simp
  have noCapital : isAllUpper tokens.flatten = false := by
    have none : tokens.flatten.any isUppercase = false := by simpa using small
    rw [isAllUpper, none, Bool.false_and]
  have each := fun token member => splitBy_of_small (nonempty token member) (small token member)
  rw [rereadWords, parts, readParts_of_isFree [] free, List.nil_append, stretchWords, noCapital,
    if_neg (by decide), List.flatMap_congr each]
  simp

end SymbolCorpus.Identifier
