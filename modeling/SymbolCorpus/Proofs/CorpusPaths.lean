import SymbolCorpus.Proofs.Lines

/-! # Names of corpus files

The name of a corpus file ends in the short name of its representation, whatever the split is
called, and begins with its side when the split has no slash in it.
-/

namespace SymbolCorpus

namespace Path

open Text

theorem parts_eq {path : String} {before : List (List Char)} {last : List Char} (nonempty : last ≠ [])
    (cut : splitOn '/' path.toList = before ++ [last]) :
    parts path = (before.filter (!·.isEmpty)).map String.ofList ++ [String.ofList last] := by
  have kept : [last].filter (!·.isEmpty) = [last] :=
    List.filter_eq_self.mpr fun part member => by
      obtain rfl := List.mem_singleton.mp member
      simpa using nonempty
  rw [parts, cut, List.filter_append, kept, List.map_append]
  rfl

/-- The last part of a path goes on with every end of the path that has no slash, and the parts before
    it do not depend on that end. -/
theorem exists_parts_append (before : List Char) :
    ∃ others last, ∀ (path : String) (after : List Char), path.toList = before ++ after →
      after ≠ [] → '/' ∉ after → parts path = others ++ [String.ofList (last ++ after)] := by
  obtain ⟨others, last, cut⟩ := exists_splitOn_append '/' before
  refine ⟨(others.filter (!·.isEmpty)).map String.ofList, last,
    fun path after whole nonempty plain => ?_⟩
  exact parts_eq (by simp [nonempty]) (by rw [whole, cut after plain])

theorem exists_toList_join (base path : String) :
    ∃ before, (join base path).toList = before ++ path.toList := by
  unfold join
  split
  · exact ⟨[], rfl⟩
  · split
    · exact ⟨base.toList, String.toList_append⟩
    · exact ⟨(base ++ "/").toList, String.toList_append⟩

theorem toList_join_of_relative (base : String) {path : String} (relative : isAbsolute path = false) :
    (join base path).toList = path.toList ∨
      ∃ before, (join base path).toList = before ++ '/' :: path.toList := by
  rw [join, relative, if_neg Bool.false_ne_true]
  by_cases empty : base = ""
  · subst empty
    exact .inl (congrArg String.toList String.empty_append)
  · cases slash : endsInSlash base with
    | true =>
        obtain ⟨before, whole⟩ := List.getLast?_eq_some_iff.mp (by simpa [endsInSlash] using slash)
        exact .inr ⟨before, by simp [whole]⟩
    | false => exact .inr ⟨base.toList, by simp [empty]⟩

theorem getLast?_parts_join (base : String) {name : String} (relative : isAbsolute name = false)
    (nonempty : name.toList ≠ []) (plain : '/' ∉ name.toList) :
    (parts (join base name)).getLast? = some name := by
  have cut : ∃ before, splitOn '/' (join base name).toList = before ++ [name.toList] := by
    rcases toList_join_of_relative base relative with alone | ⟨before, behind⟩
    · exact ⟨[], by rw [alone, splitOn_of_not_mem plain, List.nil_append]⟩
    · exact ⟨_, by rw [behind, splitOn_append_separator, splitOn_of_not_mem plain]⟩
  obtain ⟨before, cut⟩ := cut
  rw [parts_eq nonempty cut, List.getLast?_concat, String.ofList_toList]

end Path

/-! ## Corpus files -/

/-- How the name of a corpus file ends. -/
def fileEnd (representation : Representation) : List Char :=
  ("-" ++ representation.tag ++ ".txt").toList

theorem fileEnd_injective {first second : Representation} {name : List Char}
    (h : fileEnd first <:+ name) (h' : fileEnd second <:+ name) : first = second := by
  have nested := List.suffix_or_suffix_of_suffix h h'
  revert nested
  cases first <;> cases second <;> decide

/-- The last part of the path of a corpus file tells its representation. -/
theorem getLast?_parts_corpusPath (folder side split : String) (representation : Representation) :
    ∃ name, (Path.parts (corpusPath folder side split representation)).getLast? = some name ∧
      fileEnd representation <:+ name.toList := by
  obtain ⟨before, whole⟩ := Path.exists_toList_join folder
    (side ++ "-" ++ split ++ "-" ++ representation.tag ++ ".txt")
  have ends : (corpusPath folder side split representation).toList =
      (before ++ (side ++ "-" ++ split).toList) ++ fileEnd representation := by
    rw [corpusPath, whole]
    simp [fileEnd]
  have plain : '/' ∉ fileEnd representation := by
    cases representation <;> decide
  have nonempty : fileEnd representation ≠ [] := by
    cases representation <;> decide
  obtain ⟨others, last, cut⟩ :=
    Path.exists_parts_append (before ++ (side ++ "-" ++ split).toList)
  rw [cut _ _ ends nonempty plain, List.getLast?_concat]
  exact ⟨_, rfl, by simp⟩

theorem getLast?_parts_corpusPath_of_plain (folder : String) {side split : String}
    (representation : Representation) (named : side.toList ≠ []) (plainSide : '/' ∉ side.toList)
    (plain : '/' ∉ split.toList) :
    (Path.parts (corpusPath folder side split representation)).getLast? =
      some (side ++ "-" ++ split ++ "-" ++ representation.tag ++ ".txt") := by
  have plainTag : '/' ∉ representation.tag.toList := by
    cases representation <;> decide
  apply Path.getLast?_parts_join
  · cases whole : side.toList with
    | nil => exact absurd whole named
    | cons first rest =>
        have unlike : first ≠ '/' := fun same => plainSide (by simp [whole, same])
        simp [Path.isAbsolute, whole, unlike]
  · simp
  · simp [plain, plainSide, plainTag]

end SymbolCorpus
