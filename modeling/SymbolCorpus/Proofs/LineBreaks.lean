import SymbolCorpus.Proofs.InStep

/-! # Lines of a decompiler's text

A decompiler's text is tokenized line by line. No rule looks past the end of a line but those for
white space and for block comments, and a newline between two texts ends a string literal as the end
of the first text does. So the tokens of two texts with a newline between them are those of the one
and then those of the other, unless the first ends in a block comment that it does not close or in a
backslash that would take the newline along.
-/

namespace SymbolCorpus.PseudoCode

open Text Identifier

/-- A block comment that nothing closes. -/
def Lexeme.IsUnclosed (lexeme : Lexeme) : Prop :=
  lexeme.category = .comment ∧ ∃ rest, lexeme.text = '/' :: '*' :: rest ∧ ¬['*', '/'] <:+: rest

/-- A backslash on its own. -/
def Lexeme.IsBackslash (lexeme : Lexeme) : Prop :=
  lexeme.category = .other ∧ lexeme.text = ['\\']

/-! ## Rules that the end of a line stops -/

theorem isGap_newline : isGap '\n' = true := by decide

theorem stopsAt_line : StopsAt '\n' lineLength := stopsAt_takeWhile (by decide)

theorem stopsAt_lineComment : StopsAt '\n' lineCommentLength where
  append text rest := by
    cases text with
    | nil => rfl
    | cons c text =>
        cases text with
        | nil => simp [lineCommentLength]
        | cons d text =>
            by_cases comment : c = '/' ∧ d = '/'
            · obtain ⟨rfl, rfl⟩ := comment
              simp only [lineCommentLength, List.cons_append, stopsAt_line.append]
            · rw [lineCommentLength.eq_2, lineCommentLength.eq_2]
              · rintro behind same
                simp only [List.cons.injEq] at same
                exact comment ⟨same.1, same.2.1⟩
              · rintro behind same
                simp only [List.cons_append, List.cons.injEq] at same
                exact comment ⟨same.1, same.2.1⟩
  le text := by
    unfold lineCommentLength
    split
    · next rest =>
        have := stopsAt_line.le rest
        simp only [List.length_cons]
        omega
    · exact Nat.zero_le _

theorem stopsAt_directive : StopsAt '\n' directiveLength where
  append text rest := by
    cases text with
    | nil => rfl
    | cons c text =>
        by_cases mark : c = '#'
        · subst mark
          have indent := length_takeWhile_le (fun c => c == ' ' || c == '\t') text
          have indented : (text ++ '\n' :: rest).takeWhile (fun c => c == ' ' || c == '\t') =
              text.takeWhile fun c => c == ' ' || c == '\t' := takeWhile_append_gap rfl text rest
          simp only [directiveLength, List.cons_append, indented,
            List.drop_append_of_le_length indent, wordRun_append_gap isGap_newline, stopsAt_line.append]
        · simp [directiveLength, mark]
  le text := by
    unfold directiveLength
    split
    · next rest =>
        dsimp only
        split
        · have indent := length_takeWhile_le (fun c => c == ' ' || c == '\t') rest
          have line := stopsAt_line.le
            (rest.drop (rest.takeWhile fun c => c == ' ' || c == '\t').length)
          simp only [List.length_drop] at line
          simp only [List.length_cons]
          omega
        · exact Nat.zero_le _
    · exact Nat.zero_le _

/-! ## Literals -/

theorem openedBy_append_newline {quote : Char} (h : quote ≠ '\n') (text rest : List Char) :
    openedBy quote (text ++ '\n' :: rest) =
      (openedBy quote text).map fun opened => (opened.1, opened.2 ++ '\n' :: rest) := by
  have absent : ∀ mark ∈ encodingMarks, '\n' ∉ mark ++ [quote] := by
    have marks : ∀ mark ∈ encodingMarks, '\n' ∉ mark := by decide
    intro mark member
    simp [marks mark member, Ne.symm h]
  unfold openedBy
  generalize encodingMarks = marks at absent
  induction marks with
  | nil => rfl
  | cons mark marks ih =>
      rw [List.forall_mem_cons] at absent
      rw [List.findSome?_cons, List.findSome?_cons, isPrefixOf?_separated absent.1]
      cases List.isPrefixOf? (mark ++ [quote]) text with
      | none => simpa using ih absent.2
      | some behind => rfl

theorem closingLength?_append_newline {quote : Char} (newline : quote ≠ '\n')
    (backslash : quote ≠ '\\') (text rest : List Char) :
    closingLength? quote (text ++ '\n' :: rest) = closingLength? quote text := by
  fun_induction closingLength? quote text with
  | case1 => simp [closingLength?, newline.symm]
  | case2 text => simp [closingLength?]
  | case3 c text other ih => simp [closingLength?, other, ih]
  | case4 text single => rw [List.cons_append, closingLength?_plain backslash, if_pos rfl]
  | case5 c text single other stops =>
      -- Either the line ends here, or a backslash stands at the end of the text and takes nothing along.
      by_cases escape : c = '\\'
      · subst escape
        cases text with
        | nil => simp [closingLength?]
        | cons d text => exact absurd rfl (single d text rfl)
      · have line : c = '\n' := by simpa [escape] using stops
        rw [List.cons_append, closingLength?_plain escape, if_neg other, if_pos line]
  | case6 c text single other goes ih =>
      simp only [Bool.or_eq_true, decide_eq_true_eq, not_or] at goes
      rw [List.cons_append, closingLength?_plain goes.2, if_neg other, if_neg goes.1, ih]

theorem closingLength?_le {quote : Char} {text : List Char} {closing : Nat}
    (h : closingLength? quote text = some closing) : closing ≤ text.length := by
  obtain ⟨content, rest, rfl, -, rfl⟩ := exists_content h
  simp only [List.length_append, List.length_cons]
  omega

theorem stopsAt_closed {quote : Char} (newline : quote ≠ '\n') (backslash : quote ≠ '\\') :
    StopsAt '\n' (closedLength quote) where
  append text rest := by
    unfold closedLength
    rw [openedBy_append_newline newline]
    cases openedBy quote text with
    | none => rfl
    | some opened => simp only [Option.map_some, closingLength?_append_newline newline backslash]
  le text := by
    unfold closedLength
    split
    · next opening rest opened =>
        obtain ⟨mark, -, rfl, rfl⟩ := openedBy_eq_some opened
        split
        · next closing closed =>
            have := closingLength?_le closed
            simp only [List.length_append]
            omega
        · exact Nat.zero_le _
    · exact Nat.zero_le _

theorem stopsAt_openString : StopsAt '\n' openStringLength where
  append text rest := by
    unfold openStringLength
    rw [openedBy_append_newline (by decide)]
    cases openedBy '"' text with
    | none => rfl
    | some opened => simp only [Option.map_some, stopsAt_line.append]
  le text := by
    unfold openStringLength
    split
    · next opening rest opened =>
        obtain ⟨mark, -, rfl, rfl⟩ := openedBy_eq_some opened
        have := stopsAt_line.le rest
        simp only [List.length_append]
        omega
    · exact Nat.zero_le _

/-! ## Block comments and white space -/

theorem blockLength_append {text : List Char} (closed : ['*', '/'] <:+: text) (rest : List Char) :
    blockLength (text ++ rest) = blockLength text := by
  fun_induction blockLength text with
  | case1 behind => rfl
  | case2 c behind other ih =>
      have later : ['*', '/'] <:+: behind := by
        rcases List.infix_cons_iff.mp closed with ⟨end', starts⟩ | later
        · cases starts
          exact (other end' rfl rfl).elim
        · exact later
      rw [List.cons_append, blockLength.eq_2, ih later]
      intro end' star slash
      cases behind with
      | nil => simp at later
      | cons d behind =>
          obtain ⟨rfl, -⟩ := List.cons.inj slash
          exact other behind star rfl
  | case3 => simp at closed

theorem blockLength_unclosed {text : List Char} (unclosed : ¬['*', '/'] <:+: text) :
    blockLength text = text.length := by
  fun_induction blockLength text with
  | case1 behind => exact absurd ⟨[], behind, rfl⟩ unclosed
  | case2 c behind other ih =>
      rw [ih fun later => unclosed (List.infix_cons later), List.length_cons, Nat.add_comm]
  | case3 => rfl

theorem blockLength_le (text : List Char) : blockLength text ≤ text.length := by
  fun_induction blockLength text with
  | case1 behind => simp
  | case2 c behind other ih =>
      rw [List.length_cons]
      omega
  | case3 => exact Nat.le_refl 0

theorem blockCommentLength_append_newline {text : List Char}
    (closed : ∀ behind, text = '/' :: '*' :: behind → ['*', '/'] <:+: behind) (rest : List Char) :
    blockCommentLength (text ++ '\n' :: rest) = blockCommentLength text := by
  cases text with
  | nil => rfl
  | cons c text =>
      cases text with
      | nil => simp [blockCommentLength]
      | cons d text =>
          by_cases comment : c = '/' ∧ d = '*'
          · obtain ⟨rfl, rfl⟩ := comment
            simp only [blockCommentLength, List.cons_append, blockLength_append (closed text rfl)]
          · simp only [List.cons_append]
            rw [blockCommentLength.eq_2, blockCommentLength.eq_2]
            · simpa using comment
            · simpa using comment

theorem blankLength_append_newline {text : List Char} (filled : ∃ c ∈ text, isBlank c = false)
    (other : text ≠ ['\\']) (rest : List Char) :
    blankLength (text ++ '\n' :: rest) = blankLength text := by
  have short : (text.takeWhile isBlank).length ≠ text.length := by
    intro whole
    have all := List.takeWhile_eq_self_iff.mp ((List.takeWhile_prefix isBlank).eq_of_length whole)
    obtain ⟨c, member, visible⟩ := filled
    rw [all c member] at visible
    cases visible
  refine blankLength_append (by rw [List.takeWhile_append, if_neg short]) ?_
  intro behind same
  rcases text with _ | ⟨c, _ | ⟨d, text⟩⟩
  · simp at filled
  · exact absurd (congrArg (fun c => [c]) (List.cons.inj same).1) other
  · simp

/-! ## The first lexeme of a text with further lines -/

/-- A text that neither is white space nor goes on in the next line: it ends in no block comment from
    its start on, nor is it the backslash that continues a line. -/
structure Complete (text : List Char) : Prop where
  filled : ∃ c ∈ text, isBlank c = false
  other : text ≠ ['\\']
  closed : ∀ behind, text = '/' :: '*' :: behind → ['*', '/'] <:+: behind

/-- A recogniser takes as much of a text with further lines as of the text itself. -/
structure Unmoved (text : List Char) (recogniser : Recogniser) : Prop where
  append : ∀ rest, recogniser (text ++ '\n' :: rest) = recogniser text
  le : recogniser text ≤ text.length

theorem StopsAt.unmoved {recogniser : Recogniser} (h : StopsAt '\n' recogniser) (text : List Char) :
    Unmoved text recogniser :=
  ⟨h.append text, h.le text⟩

theorem unmoved_blockComment {text : List Char} (h : Complete text) :
    Unmoved text blockCommentLength where
  append := blockCommentLength_append_newline h.closed
  le := by
    unfold blockCommentLength
    split
    · next behind =>
        have := blockLength_le behind
        simp only [List.length_cons]
        omega
    · exact Nat.zero_le _

theorem unmoved_blank {text : List Char} (h : Complete text) : Unmoved text blankLength where
  append := blankLength_append_newline h.filled h.other
  le := blankLength_le text

theorem commonRules_unmoved {text : List Char} (h : Complete text) :
    ∀ rule ∈ commonRules, Unmoved text rule.length := by
  have numbers := numberRules_stop isGap_newline
  simp only [commonRules, List.forall_mem_cons, List.not_mem_nil, false_imp_iff, implies_true,
    and_true, reduceCtorEq, true_imp_iff, true_and] at numbers ⊢
  obtain ⟨scientific, float, hexadecimal, binary, octal, decimal⟩ := numbers
  exact ⟨unmoved_blank h, stopsAt_lineComment.unmoved text, unmoved_blockComment h,
    stopsAt_directive.unmoved text, (stopsAt_closed (by decide) (by decide)).unmoved text,
    stopsAt_openString.unmoved text, (stopsAt_closed (by decide) (by decide)).unmoved text,
    scientific.unmoved text, float.unmoved text, hexadecimal.unmoved text, binary.unmoved text,
    octal.unmoved text, decimal.unmoved text, (stopsAt_oneChar (by decide)).unmoved text,
    (stopsAt_oneChar (by decide)).unmoved text, (stopsAt_name isGap_newline).unmoved text,
    (stopsAt_oneChar (by decide)).unmoved text⟩

theorem rules_unmoved {text : List Char} (h : Complete text) :
    ∀ rule ∈ Dialect.decompiler.rules, Unmoved text rule.length := by
  intro rule member
  rw [Dialect.rules_eq, List.mem_append, List.mem_cons] at member
  rcases member with early | rfl | common
  · exact (earlyRules_stop isGap_newline .decompiler rule early).unmoved text
  · exact (stopsAt_call isGap_newline (by decide)).unmoved text
  · exact commonRules_unmoved h rule common

theorem firstMatch_append_newline {text : List Char} (h : Complete text) (rest : List Char) :
    firstMatch Dialect.decompiler.rules (text ++ '\n' :: rest) =
      firstMatch Dialect.decompiler.rules text :=
  firstMatch_congr fun rule member => (rules_unmoved h rule member).append rest

theorem firstMatch_blockComment (behind : List Char) :
    firstMatch Dialect.decompiler.rules ('/' :: '*' :: behind) =
      some (.comment, 2 + blockLength behind) := by
  have early : firstMatch (earlyRules .decompiler) ('/' :: '*' :: behind) = none := rfl
  have call : (callRule .decompiler).length ('/' :: '*' :: behind) = 0 := rfl
  have blank : blankLength ('/' :: '*' :: behind) = 0 := rfl
  have line : lineCommentLength ('/' :: '*' :: behind) = 0 := rfl
  have some : 0 < 2 + blockLength behind := by omega
  rw [Dialect.rules_eq, firstMatch_append, early, Option.none_or]
  simp only [firstMatch, commonRules, call, blank, line, blockCommentLength, Nat.lt_irrefl, if_false,
    some, if_true]

theorem complete_of_run {offset : Nat} {text : List Char} {lexeme : Lexeme} {lexemes : List Lexeme}
    (run : lexFrom Dialect.decompiler.rules offset text = .ok (lexeme :: lexemes))
    (filled : ∃ c ∈ text, isBlank c = false) (closed : ¬lexeme.IsUnclosed)
    (ends : ∀ last ∈ (lexeme :: lexemes).getLast?, ¬last.IsBackslash) : Complete text where
  filled := filled
  other := by
    rintro rfl
    have found : firstMatch Dialect.decompiler.rules ['\\'] = some (.other, 1) := by decide
    rw [lexFrom_of_firstMatch (List.cons_ne_nil _ _) found (lexFrom_nil _ _)] at run
    obtain ⟨rfl, rfl⟩ := List.cons.inj (Except.ok.inj run)
    exact ends _ rfl ⟨rfl, rfl⟩
  closed := by
    rintro behind rfl
    obtain ⟨length, found, taken, -⟩ := lexFrom_cons_inv run
    by_contra unclosed
    rw [firstMatch_blockComment, blockLength_unclosed unclosed] at found
    obtain ⟨category, rfl⟩ := Prod.mk.inj (Option.some.inj found)
    refine closed ⟨category.symm, behind, ?_, unclosed⟩
    rw [taken]
    exact List.take_of_length_le (by simp only [List.length_cons]; omega)

/-! ## Where two texts meet -/

/-- How the lexemes of a text go on behind a newline. White space at its end and at the start of the
    rest becomes a part of the gap, and all other lexemes are kept. -/
structure Seam (text rest : List Char) (offset : Nat) (lexemes kept : List Lexeme) (gap : Lexeme)
    (behind : List Lexeme) : Prop where
  ending : ∃ blanks, lexemes = kept ++ blanks ∧ ∀ blank ∈ blanks, blank.category = .whitespace
  blank : gap.category = .whitespace
  joined : lexFrom Dialect.decompiler.rules offset (text ++ '\n' :: rest) =
    .ok (kept ++ gap :: behind)
  later : ∃ start, lexFrom Dialect.decompiler.rules start (trimStart rest) = .ok behind

theorem whitespace_of_isBlank {offset : Nat} {text : List Char} {lexemes : List Lexeme}
    (run : lexFrom Dialect.decompiler.rules offset text = .ok lexemes)
    (blank : ∀ c ∈ text, isBlank c = true) : ∀ lexeme ∈ lexemes, lexeme.category = .whitespace := by
  cases text with
  | nil =>
      rw [lexFrom_nil] at run
      obtain rfl := Except.ok.inj run
      simp
  | cons c rest =>
      have nothing : trimStart (c :: rest) = [] := List.dropWhile_eq_nil_iff.mpr blank
      have later : lexFrom Dialect.decompiler.rules
          (offset + utf8Length ((c :: rest).takeWhile isBlank)) (trimStart (c :: rest)) = .ok [] := by
        rw [nothing, lexFrom_nil]
      rw [lexFrom_blank (blank c List.mem_cons_self) later] at run
      obtain rfl := Except.ok.inj run
      simp

theorem exists_seam_of_isBlank {offset : Nat} {text : List Char} {lexemes : List Lexeme}
    (run : lexFrom Dialect.decompiler.rules offset text = .ok lexemes)
    (blank : ∀ c ∈ text, isBlank c = true) (rest : List Char) :
    ∃ gap behind, Seam text rest offset lexemes [] gap behind := by
  have trimmed : trimStart (text ++ '\n' :: rest) = trimStart rest := by
    rw [trimStart, List.dropWhile_append_of_pos blank]
    exact List.dropWhile_cons_of_pos (by decide)
  obtain ⟨c, more, whole, blankFirst⟩ :
      ∃ c more, text ++ '\n' :: rest = c :: more ∧ isBlank c = true := by
    cases text with
    | nil => exact ⟨'\n', rest, rfl, by decide⟩
    | cons c text => exact ⟨c, text ++ '\n' :: rest, rfl, blank c List.mem_cons_self⟩
  rw [whole] at trimmed
  obtain ⟨behind, later⟩ := lexFrom_total Dialect.decompiler.firstMatch_total
    (offset + utf8Length ((c :: more).takeWhile isBlank)) (trimStart rest)
  have joined := lexFrom_blank blankFirst (by rw [trimmed]; exact later)
  rw [← whole] at joined
  exact ⟨_, behind, ⟨lexemes, rfl, whitespace_of_isBlank run blank⟩, rfl, joined, _, later⟩

theorem Seam.cons {text rest : List Char} {offset length : Nat} {category : Category}
    {lexemes kept behind : List Lexeme} {gap : Lexeme} (complete : Complete text)
    (found : firstMatch Dialect.decompiler.rules text = some (category, length))
    (h : Seam (text.drop length) rest (offset + utf8Length (text.take length)) lexemes kept gap behind) :
    Seam text rest offset (⟨category, text.take length, offset⟩ :: lexemes)
      (⟨category, text.take length, offset⟩ :: kept) gap behind where
  ending := by
    obtain ⟨blanks, rfl, blank⟩ := h.ending
    exact ⟨blanks, rfl, blank⟩
  blank := h.blank
  joined := by
    have within : length ≤ text.length := by
      obtain ⟨rule, member, -, rfl⟩ := exists_rule_of_firstMatch found
      exact (rules_unmoved complete rule member).le
    have taken : (text ++ '\n' :: rest).take length = text.take length :=
      List.take_append_of_le_length within
    have joined := h.joined
    rw [← firstMatch_append_newline complete rest] at found
    rw [← List.drop_append_of_le_length within, ← taken] at joined
    rw [← taken]
    exact lexFrom_of_firstMatch (by simp) found joined
  later := h.later

theorem exists_seam {lexemes : List Lexeme} : ∀ {offset : Nat} {text : List Char},
    lexFrom Dialect.decompiler.rules offset text = .ok lexemes →
    (∀ lexeme ∈ lexemes, ¬lexeme.IsUnclosed) → (∀ last ∈ lexemes.getLast?, ¬last.IsBackslash) →
    ∀ rest, ∃ kept gap behind, Seam text rest offset lexemes kept gap behind := by
  induction lexemes with
  | nil =>
      intro offset text run _ _ rest
      obtain rfl := lexFrom_nil_inv run
      exact ⟨[], exists_seam_of_isBlank run (List.forall_mem_nil _) rest⟩
  | cons lexeme lexemes ih =>
      intro offset text run closed ends rest
      by_cases filled : ∃ c ∈ text, isBlank c = false
      · have complete := complete_of_run run filled (closed lexeme List.mem_cons_self) ends
        obtain ⟨category, taken, start⟩ := lexeme
        obtain ⟨length, found, rfl, -, rfl, later⟩ := lexFrom_cons_inv run
        have endsLater : ∀ last ∈ lexemes.getLast?, ¬last.IsBackslash := by
          intro last member
          refine ends last ?_
          rw [Option.mem_def] at member
          simp [List.getLast?_cons, member]
        obtain ⟨kept, gap, behind, seam⟩ :=
          ih later (List.forall_mem_cons.mp closed).2 endsLater rest
        exact ⟨_, gap, behind, seam.cons complete found⟩
      · have blank : ∀ c ∈ text, isBlank c = true := by simpa using filled
        exact ⟨[], exists_seam_of_isBlank run blank rest⟩

/-! ## Tokens -/

section Tokens

variable {segmenter : Segmenter} {keepStrings keepCalls : Bool}

/-- White space leaves no trace between the tokens of the texts before and behind it. -/
theorem exists_tokens_around_blank {before after : List Lexeme} {blank : Lexeme}
    {tokens : List (List Char)}
    (h : renderFragments segmenter ⟨.decompiler, keepStrings, keepCalls⟩ none
      (fragments (before ++ blank :: after)) = .ok tokens) (isBlank : blank.category = .whitespace) :
    ∃ earlier later,
      renderFragments segmenter ⟨.decompiler, keepStrings, keepCalls⟩ none (fragments before) =
        .ok earlier ∧
      renderFragments segmenter ⟨.decompiler, keepStrings, keepCalls⟩ none (fragments after) =
        .ok later ∧ earlier ++ later = tokens := by
  obtain ⟨earlier, token, later, around, rfl⟩ := exists_around h (by simp [isBlank])
  have shown := around.here
  have right := around.right
  rw [definedBy_decompiler] at shown right
  simp only [renderLexeme, isBlank, definedBy_decompiler, Except.ok.injEq, Prod.mk.injEq] at shown
  exact ⟨earlier, later, around.left, right, by rw [← shown.1]; rfl⟩

theorem renderFragments_blanks {options : TokenOptions} {defined : Option (List Char)}
    {blanks : List Lexeme} (blank : ∀ lexeme ∈ blanks, lexeme.category = .whitespace) :
    renderFragments segmenter options defined (fragments blanks) = .ok [] := by
  induction blanks with
  | nil => rfl
  | cons first blanks ih =>
      rw [List.forall_mem_cons] at blank
      have shown : renderLexeme segmenter options defined first = .ok (none, defined) := by
        simp [renderLexeme, blank.1]
      rw [fragments_of_other (by simp [blank.1]), renderFragments_single shown, ih blank.2]
      rfl

theorem renderFragments_of_append_blanks {before blanks : List Lexeme} {tokens : List (List Char)}
    (blank : ∀ lexeme ∈ blanks, lexeme.category = .whitespace)
    (h : renderFragments segmenter ⟨.decompiler, keepStrings, keepCalls⟩ none
      (fragments (before ++ blanks)) = .ok tokens) :
    renderFragments segmenter ⟨.decompiler, keepStrings, keepCalls⟩ none (fragments before) =
      .ok tokens := by
  cases blanks with
  | nil => rwa [List.append_nil] at h
  | cons first blanks =>
      rw [List.forall_mem_cons] at blank
      obtain ⟨earlier, later, left, right, rfl⟩ := exists_tokens_around_blank h blank.1
      rw [renderFragments_blanks blank.2] at right
      obtain rfl := Except.ok.inj right
      rwa [List.append_nil]

end Tokens

/-- A newline separates the tokens of what stands before it from those of what stands behind it. -/
theorem tokenize_append_newline (segmenter : Segmenter) (keepStrings keepCalls : Bool)
    {text : List Char} {lexemes : List Lexeme} (run : lex .decompiler text = .ok lexemes)
    (closed : ∀ lexeme ∈ lexemes, ¬lexeme.IsUnclosed)
    (ends : ∀ last ∈ lexemes.getLast?, ¬last.IsBackslash) (rest : List Char) :
    ∃ before behind,
      tokenize segmenter ⟨.decompiler, keepStrings, keepCalls⟩ text = .ok before ∧
      tokenize segmenter ⟨.decompiler, keepStrings, keepCalls⟩ rest = .ok behind ∧
      tokenize segmenter ⟨.decompiler, keepStrings, keepCalls⟩ (text ++ '\n' :: rest) =
        .ok (before ++ behind) := by
  obtain ⟨kept, gap, later, seam⟩ := exists_seam run closed ends rest
  obtain ⟨blanks, rfl, blank⟩ := seam.ending
  obtain ⟨start, runLater⟩ := seam.later
  obtain ⟨_, before, runAgain, rendered⟩ :=
    exists_rendering segmenter ⟨.decompiler, keepStrings, keepCalls⟩ text
  obtain rfl := Except.ok.inj (run.symm.trans runAgain)
  obtain ⟨_, tokens, runJoined, renderedJoined⟩ :=
    exists_rendering segmenter ⟨.decompiler, keepStrings, keepCalls⟩ (text ++ '\n' :: rest)
  obtain rfl := Except.ok.inj (seam.joined.symm.trans runJoined)
  obtain ⟨earlier, behind, left, right, rfl⟩ := exists_tokens_around_blank renderedJoined seam.blank
  -- The first text's own white space at its end goes into the gap, without a token in either place.
  rw [renderFragments_of_append_blanks blank rendered] at left
  obtain rfl := Except.ok.inj left
  refine ⟨before, behind, (tokenize_of_lex run).trans rendered, ?_,
    (tokenize_of_lex runJoined).trans renderedJoined⟩
  change tokensFrom segmenter _ none rest = .ok behind
  rw [← tokensFrom_trimStart, tokensFrom_of_run runLater, right]

/-- The lexemes of an assignment of a literal that nothing closes. -/
def strayQuote : List Lexeme :=
  [⟨.identifier, ['p'], 0⟩, ⟨.operator, ['='], 1⟩, ⟨.string, ['"', 'q'], 2⟩]

/-- A stray quote does not reach the quote in the next line. -/
theorem tokenize_strayQuote :
    lex .decompiler ['p', '=', '"', 'q'] = .ok strayQuote ∧
      (∀ lexeme ∈ strayQuote, ¬lexeme.IsUnclosed) ∧
      (∀ last ∈ strayQuote.getLast?, ¬last.IsBackslash) ∧
      ∃ before behind,
        tokenize .plain ⟨.decompiler, true, true⟩ ['p', '=', '"', 'q'] = .ok before ∧
        tokenize .plain ⟨.decompiler, true, true⟩ ['r', '"', ';'] = .ok behind ∧
        tokenize .plain ⟨.decompiler, true, true⟩ ['p', '=', '"', 'q', '\n', 'r', '"', ';'] =
          .ok (before ++ behind) := by
  have run : lex .decompiler ['p', '=', '"', 'q'] = .ok strayQuote :=
    lex_of_lexesAs (by decide) (by decide)
  have closed : ∀ lexeme ∈ strayQuote, ¬lexeme.IsUnclosed := by
    simp [strayQuote, Lexeme.IsUnclosed]
  have ends : ∀ last ∈ strayQuote.getLast?, ¬last.IsBackslash := by
    simp [strayQuote, Lexeme.IsBackslash]
  exact ⟨run, closed, ends,
    tokenize_append_newline .plain true true run closed ends ['r', '"', ';']⟩

end SymbolCorpus.PseudoCode
