import Mathlib.Data.List.Nodup
import SymbolCorpus.Proofs.Trees

/-! # Trees in any order of listing

When the entries of every folder have different names, a tree is known from what stands at its places.
The order in which folders list their entries is not seen there: looking up, walking and where a tree
ends are the same for all orders.
-/

namespace SymbolCorpus

/-- A name that a path can have as one of its parts. -/
def IsPart (name : FileName) : Prop := name.octets ≠ [] ∧ RawPath.slash ∉ name.octets

instance : DecidablePred IsPart := fun name =>
  inferInstanceAs (Decidable (name.octets ≠ [] ∧ RawPath.slash ∉ name.octets))

namespace FileTree

/-! ## Trees whose names tell entries apart -/

/-- In every folder of the tree the names of the entries are different parts of paths. -/
def WellNamed (tree : FileTree) : Prop :=
  ∀ place entries, tree.find? place = some (.folder entries) →
    (entries.map Prod.fst).Nodup ∧ ∀ name ∈ entries.map Prod.fst, IsPart name

variable {tree inner : FileTree} {name : FileName} {entries rest : List (FileName × FileTree)}

theorem mem_of_lookUp (h : lookUp name entries = some inner) : (name, inner) ∈ entries := by
  obtain ⟨⟨other, found⟩, first, same⟩ := Option.map_eq_some_iff.mp h
  cases same
  have here : other = name := by simpa using List.find?_some first
  exact here ▸ List.mem_of_find?_eq_some first

theorem lookUp_of_mem (distinct : (entries.map Prod.fst).Nodup) (h : (name, inner) ∈ entries) :
    lookUp name entries = some inner := by
  induction entries with
  | nil => cases h
  | cons entry rest ih =>
      rw [List.map_cons, List.nodup_cons] at distinct
      rcases List.mem_cons.mp h with rfl | later
      · simp [lookUp]
      · have unlike : entry.1 ≠ name := fun same =>
          distinct.1 (same ▸ List.mem_map.mpr ⟨_, later, rfl⟩)
        have found := ih distinct.2 later
        simpa [lookUp, unlike] using found

theorem find?_append {place : Place} (h : tree.find? place = some inner) (further : Place) :
    tree.find? (place ++ further) = inner.find? further := by
  induction place generalizing tree with
  | nil =>
      rw [find?_nil] at h
      cases h
      rfl
  | cons name place ih =>
      obtain ⟨entries, outer, rfl, entry, found⟩ := find?_cons_eq_some h
      rw [List.cons_append, find?_cons_of_lookUp entry]
      exact ih found

theorem WellNamed.below (named : tree.WellNamed) {place : Place} (h : tree.find? place = some inner) :
    inner.WellNamed := by
  intro further entries found
  rw [← find?_append h] at found
  exact named _ entries found

theorem WellNamed.distinct (named : (folder entries).WellNamed) : (entries.map Prod.fst).Nodup :=
  (named [] entries (find?_nil _)).1

theorem WellNamed.entry (named : (folder entries).WellNamed) (member : (name, inner) ∈ entries) :
    inner.WellNamed := by
  have found := find?_cons_of_lookUp (lookUp_of_mem named.distinct member) []
  rw [find?_nil] at found
  exact named.below found

theorem eq_nil_of_find?_file {content : Content} {place : Place}
    (h : (file content).find? place = some inner) : place = [] ∧ inner = file content := by
  cases place with
  | nil =>
      cases h
      exact ⟨rfl, rfl⟩
  | cons name rest => cases h

theorem wellNamed_file (content : Content) : (file content).WellNamed := by
  intro place entries found
  cases (eq_nil_of_find?_file found).2

theorem wellNamed_folder (distinct : (entries.map Prod.fst).Nodup)
    (each : ∀ entry ∈ entries, IsPart entry.1 ∧ entry.2.WellNamed) : (folder entries).WellNamed := by
  intro place listed found
  cases place with
  | nil =>
      rw [find?_nil] at found
      cases found
      exact ⟨distinct, List.forall_mem_map.mpr fun entry member => (each entry member).1⟩
  | cons name rest =>
      obtain ⟨outer, inner, same, entry, below⟩ := find?_cons_eq_some found
      cases same
      exact (each _ (mem_of_lookUp entry)).2 rest listed below

theorem WellNamed.perm {entries' : List (FileName × FileTree)} (named : (folder entries).WellNamed)
    (perm : entries.Perm entries') : (folder entries').WellNamed := by
  refine wellNamed_folder ((perm.map Prod.fst).nodup_iff.mp named.distinct) fun entry member => ?_
  have listed : entry ∈ entries := perm.mem_iff.mpr member
  have names := (named [] entries (find?_nil _)).2
  exact ⟨names entry.1 (List.mem_map_of_mem listed), named.entry listed⟩

theorem WellNamed.isPart (named : tree.WellNamed) {place : Place} (h : tree.find? place = some inner) :
    ∀ name ∈ place, IsPart name := by
  induction place generalizing tree with
  | nil => exact nofun
  | cons name place ih =>
      obtain ⟨entries, outer, rfl, entry, found⟩ := find?_cons_eq_some h
      have here := mem_of_lookUp entry
      rw [List.forall_mem_cons]
      refine ⟨?_, ih (named.entry here) found⟩
      exact (named [] entries (find?_nil _)).2 name (List.mem_map.mpr ⟨_, here, rfl⟩)

mutual

/-- What holds of files, and of a folder when it holds of all its entries, holds of all trees. -/
theorem inductionOn {motive : FileTree → Prop} (file : ∀ content, motive (.file content))
    (folder : ∀ entries, (∀ entry ∈ entries, motive entry.2) → motive (.folder entries)) :
    ∀ tree, motive tree
  | .file content => file content
  | .folder entries => folder entries (inductionOnEntries file folder entries)

theorem inductionOnEntries {motive : FileTree → Prop} (file : ∀ content, motive (.file content))
    (folder : ∀ entries, (∀ entry ∈ entries, motive entry.2) → motive (.folder entries)) :
    ∀ entries : List (FileName × FileTree), ∀ entry ∈ entries, motive entry.2
  | [] => nofun
  | (_, tree) :: rest =>
      List.forall_mem_cons.mpr ⟨inductionOn file folder tree, inductionOnEntries file folder rest⟩

end

/-! ## Where a tree ends

Folders need not open. A tree is looked through as far as they do: it ends at its files and at the
folders that do not open.
-/

mutual

/-- The places where a tree ends that stands at a place. -/
def leafPlaces (opens : Place → Bool) (place : Place) : FileTree → List Place
  | .file _ => [place]
  | .folder entries => if opens place then entryLeaves opens place entries else [place]

/-- The places where the entries of a folder end that stands at a place. -/
def entryLeaves (opens : Place → Bool) (place : Place) : List (FileName × FileTree) → List Place
  | [] => []
  | (name, tree) :: entries =>
      leafPlaces opens (place ++ [name]) tree ++ entryLeaves opens place entries

end

variable {opens : Place → Bool}

/-- The tree ends at the second place, when it stands at the first. -/
structure LeafAt (opens : Place → Bool) (tree : FileTree) (place further : Place) : Prop where
  found : ∃ found, tree.find? further = some found ∧
    (found.isFolder = true → opens (place ++ further) = false)
  way : ∀ front back, further = front ++ back → back ≠ [] → opens (place ++ front) = true

theorem leafAt_nil_iff {place : Place} :
    tree.LeafAt opens place [] ↔ (tree.isFolder = true → opens place = false) := by
  constructor
  · rintro ⟨⟨found, here, closed⟩, -⟩
    rw [find?_nil] at here
    cases here
    rwa [List.append_nil] at closed
  · intro closed
    refine ⟨⟨tree, find?_nil tree, by rwa [List.append_nil]⟩, ?_⟩
    intro front back whole nonempty
    exact absurd (List.append_eq_nil_iff.mp whole.symm).2 nonempty

theorem leafAt_cons_iff {place further : Place} :
    (folder entries).LeafAt opens place (name :: further) ↔ opens place = true ∧
      ∃ inner, lookUp name entries = some inner ∧ inner.LeafAt opens (place ++ [name]) further := by
  constructor
  · rintro ⟨⟨found, here, closed⟩, way⟩
    obtain ⟨listed, inner, same, entry, below⟩ := find?_cons_eq_some here
    cases same
    have opened := way [] (name :: further) rfl (List.cons_ne_nil _ _)
    rw [List.append_nil] at opened
    refine ⟨opened, inner, entry, ⟨found, below, by simpa using closed⟩, ?_⟩
    rintro front back rfl nonempty
    simpa using way (name :: front) back rfl nonempty
  · rintro ⟨opened, inner, entry, ⟨found, below, closed⟩, way⟩
    refine ⟨⟨found, (find?_cons_of_lookUp entry further).trans below, by simpa using closed⟩, ?_⟩
    intro front back whole nonempty
    cases front with
    | nil => rwa [List.append_nil]
    | cons first front =>
        obtain ⟨rfl, rest⟩ := List.cons.inj whole
        simpa using way front back rest nonempty

theorem leafAt_file_iff {content : Content} {place further : Place} :
    (file content).LeafAt opens place further ↔ further = [] := by
  constructor
  · rintro ⟨⟨found, here, -⟩, -⟩
    exact (eq_nil_of_find?_file here).1
  · rintro rfl
    exact leafAt_nil_iff.mpr nofun

theorem entryLeaves_eq_flatMap (place : Place) (entries : List (FileName × FileTree)) :
    entryLeaves opens place entries =
      entries.flatMap fun entry => leafPlaces opens (place ++ [entry.1]) entry.2 := by
  induction entries with
  | nil => rfl
  | cons entry rest ih => rw [entryLeaves, ih, List.flatMap_cons]

theorem mem_leafPlaces_iff (named : tree.WellNamed) {place other : Place} :
    other ∈ leafPlaces opens place tree ↔
      ∃ further, other = place ++ further ∧ tree.LeafAt opens place further := by
  induction tree using inductionOn generalizing place other with
  | file content => simp [leafPlaces, leafAt_file_iff]
  | folder entries ih =>
      rw [leafPlaces]
      split
      · next opened =>
          rw [entryLeaves_eq_flatMap, List.mem_flatMap]
          constructor
          · rintro ⟨⟨name, inner⟩, member, inEntry⟩
            obtain ⟨further, rfl, leaf⟩ := (ih _ member (named.entry member)).mp inEntry
            have entry := lookUp_of_mem named.distinct member
            exact ⟨name :: further, by simp, leafAt_cons_iff.mpr ⟨opened, inner, entry, leaf⟩⟩
          · rintro ⟨further, rfl, leaf⟩
            cases further with
            | nil => simp [leafAt_nil_iff.mp leaf rfl] at opened
            | cons name further =>
                obtain ⟨-, inner, entry, leaf⟩ := leafAt_cons_iff.mp leaf
                have member := mem_of_lookUp entry
                exact ⟨_, member, (ih _ member (named.entry member)).mpr ⟨further, by simp, leaf⟩⟩
      · next closed =>
          rw [List.mem_singleton]
          constructor
          · rintro rfl
            exact ⟨[], by simp, leafAt_nil_iff.mpr fun _ => by simpa using closed⟩
          · rintro ⟨further, rfl, leaf⟩
            cases further with
            | nil => exact List.append_nil _
            | cons name further => exact absurd (leafAt_cons_iff.mp leaf).1 closed

theorem nodup_leafPlaces (named : tree.WellNamed) (place : Place) :
    (leafPlaces opens place tree).Nodup := by
  induction tree using inductionOn generalizing place with
  | file content => simp [leafPlaces]
  | folder entries ih =>
      rw [leafPlaces]
      split
      · rw [entryLeaves_eq_flatMap, List.nodup_flatMap]
        refine ⟨fun entry member => ih entry member (named.entry member) _, ?_⟩
        have distinct := List.pairwise_map.mp named.distinct
        have each : ∀ entry ∈ entries, entry.2.WellNamed := fun entry member => named.entry member
        refine (List.Pairwise.and_mem.mp distinct).imp ?_
        -- What stands below two different names has two different places.
        rintro entry entry' ⟨member, member', unlike⟩
        simp only [Function.onFun]
        intro other here there
        obtain ⟨further, rfl, -⟩ := (mem_leafPlaces_iff (each entry member)).mp here
        obtain ⟨further', same, -⟩ := (mem_leafPlaces_iff (each entry' member')).mp there
        rw [List.append_assoc, List.append_assoc] at same
        exact unlike (List.cons.inj (List.append_cancel_left same)).1
      · exact List.nodup_singleton place

/-! ## The order of listing -/

/-- Two trees have the same files and folders at the same places, in whatever order folders list
    them. -/
def SameFiles (tree tree' : FileTree) : Prop := ∀ place, tree.shapeAt? place = tree'.shapeAt? place

variable {tree tree' inner inner' : FileTree} {place : Place} {entries : List (FileName × FileTree)}

theorem SameFiles.symm (same : SameFiles tree tree') : SameFiles tree' tree :=
  fun place => (same place).symm

theorem SameFiles.find?_file (same : SameFiles tree tree') {content : Content}
    (h : tree.find? place = some (.file content)) : tree'.find? place = some (.file content) := by
  have shapes := same place
  rw [shapeAt?, shapeAt?, h] at shapes
  obtain ⟨found, here, shape⟩ := Option.map_eq_some_iff.mp shapes.symm
  rw [here, eq_file_of_shape shape]

theorem SameFiles.find?_folder (same : SameFiles tree tree')
    (h : tree.find? place = some (.folder entries)) :
    ∃ entries', tree'.find? place = some (.folder entries') := by
  have shapes := same place
  rw [shapeAt?, shapeAt?, h] at shapes
  obtain ⟨found, here, shape⟩ := Option.map_eq_some_iff.mp shapes.symm
  cases found with
  | file content => cases shape
  | folder entries' => exact ⟨entries', here⟩

theorem SameFiles.leafAt (same : SameFiles tree tree') {opens : Place → Bool} {further : Place}
    (leaf : tree.LeafAt opens place further) : tree'.LeafAt opens place further := by
  obtain ⟨⟨found, here, closed⟩, way⟩ := leaf
  have shapes := same further
  rw [shapeAt?, shapeAt?, here] at shapes
  obtain ⟨found', here', shape⟩ := Option.map_eq_some_iff.mp shapes.symm
  refine ⟨⟨found', here', ?_⟩, way⟩
  rwa [isFolder_eq_isNone_shape, shape, ← isFolder_eq_isNone_shape]

theorem SameFiles.find?_none (same : SameFiles tree tree') (h : tree.find? place = none) :
    tree'.find? place = none := by
  have shapes := same place
  rw [shapeAt?, shapeAt?, h] at shapes
  exact Option.map_eq_none_iff.mp shapes.symm

theorem SameFiles.below (same : SameFiles tree tree') (h : tree.find? place = some inner)
    (h' : tree'.find? place = some inner') : SameFiles inner inner' := by
  intro further
  have shapes := same (place ++ further)
  rwa [shapeAt?, shapeAt?, find?_append h, find?_append h'] at shapes

theorem sameFiles_of_perm {entries' : List (FileName × FileTree)} (named : (folder entries).WellNamed)
    (perm : entries.Perm entries') : SameFiles (folder entries) (folder entries') := by
  have distinct' := (perm.map Prod.fst).nodup_iff.mp named.distinct
  intro place
  cases place with
  | nil => rfl
  | cons name rest =>
      have listed : lookUp name entries = lookUp name entries' := by
        apply Option.ext
        intro inner
        constructor
        · exact fun found => lookUp_of_mem distinct' (perm.mem_iff.mp (mem_of_lookUp found))
        · exact fun found => lookUp_of_mem named.distinct (perm.mem_iff.mpr (mem_of_lookUp found))
      rw [shapeAt?, shapeAt?, find?, find?, listed]

/-- A tree with the same files in place of a part of it has the same files. -/
theorem SameFiles.put (same : SameFiles inner inner') (h : tree.find? place = some inner) :
    SameFiles tree (tree.put place inner') := by
  induction place generalizing tree with
  | nil =>
      rw [find?_nil] at h
      cases h
      cases inner <;> exact same
  | cons name rest ih =>
      obtain ⟨entries, outer, rfl, entry, found⟩ := find?_cons_eq_some h
      have changed : (folder entries).put (name :: rest) inner' =
          folder (setEntry name (outer.put rest inner') entries) := by
        cases rest with
        | nil => cases outer <;> rfl
        | cons next rest => exact put_cons_of_lookUp entry (List.cons_ne_nil next rest) inner'
      rw [changed]
      intro other
      cases other with
      | nil => rfl
      | cons first further =>
          by_cases here : first = name
          · subst here
            rw [shapeAt?_cons_of_lookUp entry,
              shapeAt?_cons_of_lookUp (lookUp_setEntry_self first _ entries)]
            exact ih found further
          · exact (shapeAt?_setEntry_of_ne here _ further).symm

/-- Walks look at what stands at places and at nothing else. -/
theorem SameFiles.walk_eq (same : SameFiles tree tree') (place : Place) (parts : List FileName) :
    tree.walk place parts = tree'.walk place parts := by
  induction parts generalizing place with
  | nil => rfl
  | cons part rest ih =>
      unfold FileTree.walk
      cases found : tree.find? place with
      | none => rw [same.find?_none found]
      | some standing =>
          cases standing with
          | file content => rw [same.find?_file found]
          | folder entries =>
              obtain ⟨entries', found'⟩ := same.find?_folder found
              rw [found']
              have listed : (lookUp part entries).isSome = (lookUp part entries').isSome := by
                have shapes := congrArg Option.isSome (same (place ++ [part]))
                rwa [shapeAt?, shapeAt?, Option.isSome_map, Option.isSome_map,
                  find?_append_singleton found, find?_append_singleton found'] at shapes
              simp only [ih]
              generalize lookUp part entries = entry at listed ⊢
              generalize lookUp part entries' = entry' at listed ⊢
              cases entry <;> cases entry' <;> first | rfl | cases listed

end FileTree

end SymbolCorpus
