import SymbolCorpus.Files.Tree

/-! # Putting a file in a tree

A file put at a place is found there. Everything else is found as before, and no folder stops being
a folder, so every walk that led somewhere still leads there.
-/

namespace SymbolCorpus.FileTree

/-- The tree is a folder. -/
def isFolder : FileTree → Bool
  | .file _ => false
  | .folder _ => true

theorem isFolder_eq_true {tree : FileTree} (h : tree.isFolder = true) :
    ∃ entries, tree = .folder entries := by
  cases tree with
  | file content => cases h
  | folder entries => exact ⟨entries, rfl⟩

theorem isFolder_eq_false {tree : FileTree} (h : tree.isFolder = false) :
    ∃ content, tree = .file content := by
  cases tree with
  | file content => exact ⟨content, rfl⟩
  | folder entries => cases h

/-! ## Entries of a folder -/

@[simp] theorem lookUp_setEntry_self (name : FileName) (tree : FileTree)
    (entries : List (FileName × FileTree)) : lookUp name (setEntry name tree entries) = some tree := by
  induction entries with
  | nil => simp [setEntry, lookUp]
  | cons entry entries ih =>
      unfold setEntry
      split
      · simp [lookUp]
      · next other => simpa [lookUp, other] using ih

theorem lookUp_setEntry_of_ne {name other : FileName} (h : other ≠ name) (tree : FileTree)
    (entries : List (FileName × FileTree)) :
    lookUp other (setEntry name tree entries) = lookUp other entries := by
  induction entries with
  | nil => simp [setEntry, lookUp, Ne.symm h]
  | cons entry entries ih =>
      unfold setEntry
      split
      · next same =>
          have unlike : entry.1 ≠ other := same ▸ Ne.symm h
          simp [lookUp, Ne.symm h, unlike]
      · by_cases here : entry.1 = other
        · simp [lookUp, here]
        · simpa [lookUp, here] using ih

/-! ## Places -/

@[simp] theorem find?_nil (tree : FileTree) : tree.find? [] = some tree := by
  cases tree <;> rfl

theorem find?_cons_eq_some {tree found : FileTree} {name : FileName} {rest : Place}
    (h : tree.find? (name :: rest) = some found) :
    ∃ entries inner, tree = .folder entries ∧ lookUp name entries = some inner ∧
      inner.find? rest = some found := by
  cases tree with
  | file content => cases h
  | folder entries =>
      unfold find? at h
      split at h
      · next inner entry => exact ⟨entries, inner, rfl, entry, h⟩
      · cases h

theorem find?_cons_of_lookUp {entries : List (FileName × FileTree)} {name : FileName} {inner : FileTree}
    (h : lookUp name entries = some inner) (rest : Place) :
    (folder entries).find? (name :: rest) = inner.find? rest := by
  rw [find?, h]

theorem find?_append_singleton {tree : FileTree} {place : Place} {entries : List (FileName × FileTree)}
    (h : tree.find? place = some (.folder entries)) (name : FileName) :
    tree.find? (place ++ [name]) = lookUp name entries := by
  induction place generalizing tree with
  | nil =>
      rw [find?_nil] at h
      cases h
      rw [List.nil_append, find?]
      cases lookUp name entries with
      | none => rfl
      | some inner => exact find?_nil inner
  | cons first rest ih =>
      obtain ⟨outer, inner, rfl, entry, found⟩ := find?_cons_eq_some h
      rw [List.cons_append, find?_cons_of_lookUp entry]
      exact ih found

theorem exists_folder_of_find? {tree found : FileTree} {place rest : Place} {name : FileName}
    (h : tree.find? (place ++ name :: rest) = some found) :
    ∃ entries, tree.find? place = some (.folder entries) := by
  induction place generalizing tree with
  | nil =>
      obtain ⟨entries, inner, rfl, -, -⟩ := find?_cons_eq_some h
      exact ⟨entries, find?_nil _⟩
  | cons first place ih =>
      obtain ⟨entries, inner, rfl, entry, below⟩ := find?_cons_eq_some h
      rw [find?_cons_of_lookUp entry]
      exact ih below

theorem put_cons_of_lookUp {entries : List (FileName × FileTree)} {name : FileName} {inner : FileTree}
    (h : lookUp name entries = some inner) {rest : Place} (nonempty : rest ≠ []) (new : FileTree) :
    (folder entries).put (name :: rest) new = folder (setEntry name (inner.put rest new) entries) := by
  cases rest with
  | nil => exact absurd rfl nonempty
  | cons next rest => rw [put, h]

theorem find?_put_folder {tree : FileTree} {place : Place} {entries : List (FileName × FileTree)}
    (h : tree.find? place = some (.folder entries)) (name : FileName) (new : FileTree) :
    (tree.put (place ++ [name]) new).find? place = some (.folder (setEntry name new entries)) := by
  induction place generalizing tree with
  | nil =>
      rw [find?_nil] at h
      cases h
      rw [List.nil_append, put, find?_nil]
  | cons first rest ih =>
      obtain ⟨outer, inner, rfl, entry, found⟩ := find?_cons_eq_some h
      rw [List.cons_append, put_cons_of_lookUp entry (by simp),
        find?_cons_of_lookUp (lookUp_setEntry_self first _ outer)]
      exact ih found

theorem find?_put_self {tree : FileTree} {place : Place} {entries : List (FileName × FileTree)}
    (h : tree.find? place = some (.folder entries)) (name : FileName) (new : FileTree) :
    (tree.put (place ++ [name]) new).find? (place ++ [name]) = some new := by
  rw [find?_append_singleton (find?_put_folder h name new), lookUp_setEntry_self]

theorem walk_append {tree : FileTree} {place middle : Place} {before : List FileName}
    (first : tree.walk place before = .ok middle) (after : List FileName) :
    tree.walk place (before ++ after) = tree.walk middle after := by
  fun_induction FileTree.walk tree place before with
  | case1 place =>
      cases first
      rfl
  | _ => simp_all [FileTree.walk]

theorem walk_singleton {tree : FileTree} {place : Place} {entries : List (FileName × FileTree)}
    (h : tree.find? place = some (.folder entries)) {name : FileName} (notHere : name ≠ ".")
    (notAbove : name ≠ "..") :
    tree.walk place [name] =
      if isLongName name then .error .nameTooLong
      else if (lookUp name entries).isSome then .ok (place ++ [name])
      else .error .notFound := by
  cases entry : lookUp name entries with
  | none => simp [FileTree.walk, h, notHere, notAbove, entry]
  | some inner => simp [FileTree.walk, h, notHere, notAbove, entry]

/-! ## What a new file leaves alone -/

/-- A place where a file can be put: its folder is there, and no folder stands at the place itself. -/
structure Free (tree : FileTree) (place : Place) (name : FileName) : Prop where
  folder : ∃ entries, tree.find? place = some (.folder entries)
  noFolder : ∀ found, tree.find? (place ++ [name]) = some found → found.isFolder = false

theorem Free.inner {entries : List (FileName × FileTree)} {first : FileName} {inner : FileTree}
    {rest : Place} {name : FileName} (entry : lookUp first entries = some inner)
    (free : Free (.folder entries) (first :: rest) name) : Free inner rest name := by
  obtain ⟨⟨below, found⟩, noFolder⟩ := free
  rw [find?_cons_of_lookUp entry] at found
  constructor
  · exact ⟨below, found⟩
  · intro other present
    apply noFolder
    rw [List.cons_append, find?_cons_of_lookUp entry]
    exact present

/-- What a tree shows without a look into folders: the content of a file, or that it is a folder. -/
def shape : FileTree → Option Content
  | .file content => some content
  | .folder _ => none

theorem isFolder_eq_isNone_shape (tree : FileTree) : tree.isFolder = tree.shape.isNone := by
  cases tree with
  | file content => rfl
  | folder entries => rfl

theorem eq_file_of_shape {tree : FileTree} {content : Content} (h : tree.shape = some content) :
    tree = .file content := by
  cases tree with
  | file other => rw [Option.some.inj h]
  | folder entries => cases h

/-- What stands at a place, folders not looked into. -/
def shapeAt? (tree : FileTree) (place : Place) : Option (Option Content) :=
  (tree.find? place).map shape

theorem shapeAt?_cons_of_lookUp {entries : List (FileName × FileTree)} {name : FileName}
    {inner : FileTree} (h : lookUp name entries = some inner) (rest : Place) :
    (folder entries).shapeAt? (name :: rest) = inner.shapeAt? rest := by
  rw [shapeAt?, find?_cons_of_lookUp h]
  rfl

theorem shapeAt?_setEntry_of_ne {entries : List (FileName × FileTree)} {name first : FileName}
    (h : first ≠ name) (new : FileTree) (rest : Place) :
    (folder (setEntry name new entries)).shapeAt? (first :: rest) =
      (folder entries).shapeAt? (first :: rest) := by
  simp only [shapeAt?, find?, lookUp_setEntry_of_ne h]

theorem shapeAt?_of_noFolder {entries : List (FileName × FileTree)} {name next : FileName}
    (noFolder : ∀ found, lookUp name entries = some found → found.isFolder = false) (rest : Place) :
    (folder entries).shapeAt? (name :: next :: rest) = none := by
  cases entry : lookUp name entries with
  | none => simp [shapeAt?, find?, entry]
  | some inner =>
      obtain ⟨content, rfl⟩ := isFolder_eq_false (noFolder inner entry)
      rw [shapeAt?_cons_of_lookUp entry]
      rfl

/-- What is put at a free place is the only thing that is new, when there is nothing in it. -/
theorem shapeAt?_put {tree new : FileTree} {place : Place} {name : FileName}
    (free : Free tree place name) (bare : ∀ first rest, new.find? (first :: rest) = none)
    {other : Place} (apart : other ≠ place ++ [name]) :
    (tree.put (place ++ [name]) new).shapeAt? other = tree.shapeAt? other := by
  -- Both places are followed name by name: either they part, or the folders on the way are put anew.
  induction place generalizing tree other with
  | nil =>
      obtain ⟨⟨entries, whole⟩, noFolder⟩ := free
      rw [find?_nil] at whole
      cases whole
      simp only [find?_append_singleton (find?_nil (folder entries))] at noFolder
      rw [List.nil_append, put]
      cases other with
      | nil => rfl
      | cons first rest =>
          by_cases here : first = name
          · subst here
            cases rest with
            | nil => exact absurd rfl apart
            | cons next rest =>
                rw [shapeAt?_of_noFolder noFolder,
                  shapeAt?_cons_of_lookUp (lookUp_setEntry_self first new entries), shapeAt?, bare]
                rfl
          · exact shapeAt?_setEntry_of_ne here _ rest
  | cons outermost place ih =>
      obtain ⟨entries, whole⟩ := free.folder
      obtain ⟨outer, inside, rfl, entry, -⟩ := find?_cons_eq_some whole
      rw [List.cons_append, put_cons_of_lookUp entry (by simp)]
      cases other with
      | nil => rfl
      | cons first rest =>
          by_cases here : first = outermost
          · subst here
            have further : rest ≠ place ++ [name] := fun same => apart (by rw [same]; rfl)
            rw [shapeAt?_cons_of_lookUp (lookUp_setEntry_self first _ outer),
              shapeAt?_cons_of_lookUp entry]
            exact ih (free.inner entry) further
          · exact shapeAt?_setEntry_of_ne here _ rest

theorem shapeAt?_put_file {tree : FileTree} {place : Place} {name : FileName}
    (free : Free tree place name) (content : Content) {other : Place}
    (apart : other ≠ place ++ [name]) :
    (tree.put (place ++ [name]) (.file content)).shapeAt? other = tree.shapeAt? other := by
  refine shapeAt?_put free ?_ apart
  intro first rest
  rfl

/-- With a new file in it a tree has a tree of the same kind wherever it had one; away from the file
    and outside of folders, the same tree. -/
theorem find?_put_file {tree : FileTree} {place : Place} {name : FileName} (free : Free tree place name)
    (content : Content) {other : Place} {found : FileTree} (h : tree.find? other = some found) :
    ∃ now, (tree.put (place ++ [name]) (.file content)).find? other = some now ∧
      now.isFolder = found.isFolder ∧
      (other ≠ place ++ [name] → found.isFolder = false → now = found) := by
  by_cases apart : other = place ++ [name]
  · subst apart
    obtain ⟨entries, standing⟩ := free.folder
    refine ⟨.file content, find?_put_self standing name _, ?_, fun unlike => absurd rfl unlike⟩
    exact (free.noFolder found h).symm
  · have same := shapeAt?_put_file free content apart
    rw [shapeAt?, shapeAt?, h] at same
    obtain ⟨now, present, shapes⟩ := Option.map_eq_some_iff.mp same
    refine ⟨now, present, ?_, fun _ plain => ?_⟩
    · rw [isFolder_eq_isNone_shape, isFolder_eq_isNone_shape, shapes]
    · obtain ⟨content, rfl⟩ := isFolder_eq_false plain
      exact eq_file_of_shape shapes

theorem setEntry_setEntry (name : FileName) (first second : FileTree)
    (entries : List (FileName × FileTree)) :
    setEntry name second (setEntry name first entries) = setEntry name second entries := by
  induction entries with
  | nil => simp [setEntry]
  | cons entry entries ih =>
      by_cases here : entry.1 = name
      · simp [setEntry, here]
      · simp [setEntry, here, ih]

theorem put_put (tree : FileTree) (place : Place) (first second : FileTree) :
    (tree.put place first).put place second = tree.put place second := by
  induction place generalizing tree with
  | nil => cases tree <;> rfl
  | cons name rest ih =>
      cases tree with
      | file content => cases rest <;> rfl
      | folder entries =>
          cases rest with
          | nil => rw [put, put, put, setEntry_setEntry]
          | cons next rest =>
              cases entry : lookUp name entries with
              | none => simp [put, entry]
              | some inner =>
                  have nonempty := List.cons_ne_nil next rest
                  rw [put_cons_of_lookUp entry nonempty, put_cons_of_lookUp entry nonempty,
                    put_cons_of_lookUp (lookUp_setEntry_self name _ entries) nonempty, ih,
                    setEntry_setEntry]

theorem setEntry_of_lookUp {name : FileName} {tree : FileTree} {entries : List (FileName × FileTree)}
    (h : lookUp name entries = some tree) : setEntry name tree entries = entries := by
  induction entries with
  | nil => cases h
  | cons entry entries ih =>
      obtain ⟨other, old⟩ := entry
      unfold setEntry
      split
      · next here =>
          simp only [lookUp, here, List.find?_cons, beq_self_eq_true, Option.map_some,
            Option.some.injEq] at h
          rw [here, h]
      · next apart =>
          have below : lookUp name entries = some tree := by simpa [lookUp, apart] using h
          rw [ih below]

theorem put_of_find? {tree found : FileTree} {place : Place} (h : tree.find? place = some found) :
    tree.put place found = tree := by
  induction place generalizing tree with
  | nil =>
      rw [find?_nil] at h
      cases h
      cases found <;> rfl
  | cons name rest ih =>
      obtain ⟨entries, inner, rfl, entry, below⟩ := find?_cons_eq_some h
      cases rest with
      | nil =>
          rw [find?_nil] at below
          cases below
          rw [put, setEntry_of_lookUp entry]
      | cons next rest =>
          rw [put_cons_of_lookUp entry (List.cons_ne_nil next rest), ih below, setEntry_of_lookUp entry]

/-- A tree that has a tree of the same kind wherever another has one. -/
def Keeps (new old : FileTree) : Prop :=
  ∀ place found, old.find? place = some found →
    ∃ now, new.find? place = some now ∧ now.isFolder = found.isFolder

theorem Keeps.refl (tree : FileTree) : Keeps tree tree := fun _ found h => ⟨found, h, rfl⟩

theorem Keeps.trans {newest new old : FileTree} (second : Keeps newest new) (first : Keeps new old) :
    Keeps newest old := by
  intro place found h
  obtain ⟨now, present, kind⟩ := first place found h
  obtain ⟨later, presentLater, kindLater⟩ := second place now present
  exact ⟨later, presentLater, kindLater.trans kind⟩

theorem keeps_put {tree : FileTree} {place : Place} {name : FileName} (free : Free tree place name)
    (content : Content) : Keeps (tree.put (place ++ [name]) (.file content)) tree := by
  intro other found h
  obtain ⟨now, present, kind, -⟩ := find?_put_file free content h
  exact ⟨now, present, kind⟩

theorem Keeps.find?_folder {new old : FileTree} (keeps : Keeps new old) {place : Place}
    {entries : List (FileName × FileTree)} (h : old.find? place = some (.folder entries)) :
    ∃ now, new.find? place = some (.folder now) := by
  obtain ⟨found, present, kind⟩ := keeps place _ h
  obtain ⟨now, rfl⟩ := isFolder_eq_true kind
  exact ⟨now, present⟩

theorem Keeps.walk {new old : FileTree} (keeps : Keeps new old) {place goal : Place}
    {parts : List FileName} (h : old.walk place parts = .ok goal) :
    new.walk place parts = .ok goal := by
  induction parts generalizing place with
  | nil => exact h
  | cons part rest ih =>
      unfold FileTree.walk at h ⊢
      split at h
      · cases h
      · cases h
      · next entries here =>
          obtain ⟨now, hereNow⟩ := keeps.find?_folder here
          rw [hereNow]
          dsimp only
          split at h
          · next point =>
              rw [if_pos point]
              exact ih h
          · next notPoint =>
              rw [if_neg notPoint]
              split at h
              · next above =>
                  rw [if_pos above]
                  exact ih h
              · next notAbove =>
                  rw [if_neg notAbove]
                  split at h
                  · cases h
                  · next short =>
                      rw [if_neg short]
                      split at h
                      · cases h
                      · next inner entry =>
                          rw [← find?_append_singleton here] at entry
                          obtain ⟨innerNow, entryNow, -⟩ := keeps _ _ entry
                          rw [find?_append_singleton hereNow] at entryNow
                          rw [entryNow]
                          exact ih h

end SymbolCorpus.FileTree
