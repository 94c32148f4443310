import SymbolCorpus.Command.Build
import SymbolCorpus.Proofs.RawTexts
import SymbolCorpus.Proofs.SameFiles

/-! # Searching for files of records

The search keeps folders that it has yet to look into. What it has found, together with what is in
those folders, is the same at every step, so in the end it has found everything, and nothing twice.
What is found is sorted by its parts, so the order in which a folder lists its entries leaves no trace.

Two things keep a file of records from being found. Its name may be no text, since only texts are
looked at for how they end. And a folder on the way may not open at the path that the search has for
it, which gets longer with every folder: then the folder is taken for a file, and what is in it is
passed over without a word.
-/

namespace SymbolCorpus

/-! ## Paths to places -/

namespace RawPath

open Text

variable {name : FileName}

theorem parts_of_cut {path : RawPath} {before : List (List UInt8)} {name : FileName}
    (nonempty : name.octets ≠ []) (cut : splitOn slash path.octets = before ++ [name.octets]) :
    path.parts = (before.filter (!·.isEmpty)).map RawText.mk ++ [name] := by
  rw [parts, cut, List.filter_append, List.map_append, List.filter_cons_of_pos (by simpa using nonempty)]
  rfl

theorem parts_of_slash {path : RawPath} {before : List UInt8}
    (slashed : path.octets = before ++ [slash]) :
    path.parts = ((splitOn slash before).filter (!·.isEmpty)).map RawText.mk := by
  have cut : splitOn slash path.octets = splitOn slash before ++ [[]] := by
    rw [slashed, splitOn_append_separator]
    rfl
  rw [parts, cut, List.filter_append]
  simp

theorem parts_child (folder : RawPath) (h : IsPart name) :
    (folder.child name).parts = folder.parts ++ [name] := by
  have alone : splitOn slash name.octets = [name.octets] := splitOn_of_not_mem h.2
  have behind (path : RawPath) (before : List UInt8)
      (whole : path.octets = before ++ slash :: name.octets) :
      path.parts = ((splitOn slash before).filter (!·.isEmpty)).map RawText.mk ++ [name] := by
    apply parts_of_cut h.1
    rw [whole, splitOn_append_separator, alone]
  by_cases empty : folder.octets = []
  · have none : folder.parts = [] := by simp [parts, empty, splitOn]
    have whole : splitOn slash (folder.octets ++ name.octets) = [] ++ [name.octets] := by
      simpa [empty] using alone
    rw [child, if_pos (by simp [empty]), none]
    exact parts_of_cut h.1 whole
  · cases slashed : folder.endsInSlash with
    | true =>
        obtain ⟨before, whole⟩ := List.getLast?_eq_some_iff.mp (by simpa [endsInSlash] using slashed)
        rw [child, if_pos (by simp [slashed]), parts_of_slash whole]
        exact behind _ before (by simp [whole])
    | false =>
        rw [child, if_neg (by simp [slashed, empty])]
        exact behind _ folder.octets rfl

end RawPath

theorem parts_pathIn (folder : RawPath) {place : Place} (named : ∀ name ∈ place, IsPart name) :
    (pathIn folder place).parts = folder.parts ++ place := by
  induction place generalizing folder with
  | nil => exact (List.append_nil _).symm
  | cons name rest ih =>
      rw [List.forall_mem_cons] at named
      rw [pathIn, List.foldl_cons]
      refine (ih (folder.child name) named.2).trans ?_
      rw [RawPath.parts_child folder named.1, List.append_assoc]
      rfl

/-! ## The order of places -/

theorem Place.precedes_iff (place other : Place) : place.precedes other = true ↔ ¬ other < place := by
  induction place generalizing other with
  | nil => exact ⟨fun _ => List.not_lt_nil other, fun _ => rfl⟩
  | cons name rest ih =>
      cases other with
      | nil => exact ⟨nofun, fun before => absurd (List.nil_lt_cons name rest) before⟩
      | cons name' rest' =>
          rw [precedes, Bool.or_eq_true, Bool.and_eq_true, decide_eq_true_iff, beq_iff_eq, ih,
            List.cons_lt_cons_iff]
          rcases lt_trichotomy name name' with less | same | more
          · simp [less, less.not_gt, less.ne']
          · simp [same]
          · simp [more, more.not_gt, more.ne']

theorem pairwise_mergeSort_places {places : List Place} (distinct : places.Nodup) :
    (places.mergeSort Place.precedes).Pairwise (· < ·) := by
  have sorted : (places.mergeSort Place.precedes).Pairwise fun place other => place.precedes other := by
    apply List.pairwise_mergeSort
    · intro place middle other first second
      rw [Place.precedes_iff] at *
      exact not_lt.mpr ((not_lt.mp first).trans (not_lt.mp second))
    · intro place other
      rw [Bool.or_eq_true, Place.precedes_iff, Place.precedes_iff, not_lt, not_lt]
      exact le_total place other
  have distinct' : (places.mergeSort Place.precedes).Nodup :=
    (List.mergeSort_perm places _).nodup_iff.mpr distinct
  refine sorted.imp₂ (fun place other before unlike => ?_) distinct'
  exact lt_of_le_of_ne (not_lt.mp ((Place.precedes_iff place other).mp before)) unlike

/-! ## What a search comes to -/

namespace RecordsSearch

variable {disk : Disk} {folder : RawPath} {place : Place} {search : RecordsSearch}

/-- The places of what has the name of a file of records. -/
def recordsAmong (places : List Place) : List Place :=
  places.filter fun place => place.getLast?.any isRecordsName

/-- The folder at a place opens at the path that the search has for it. -/
def opensAt (disk : Disk) (folder : RawPath) (place : Place) : Bool :=
  disk.isFolder (pathIn folder place)

/-- What the search has found, and what it has yet to find. -/
def ahead (disk : Disk) (folder : RawPath) (search : RecordsSearch) : List Place :=
  search.found ++ search.pending.flatMap fun (place, entries) =>
    recordsAmong (FileTree.entryLeaves (opensAt disk folder) place entries)

theorem ahead_note (search : RecordsSearch) (place : Place) :
    (search.note place).ahead disk folder = recordsAmong [place] ++ search.ahead disk folder := by
  unfold note recordsAmong
  split
  · next records => simp [ahead, records]
  · next other => simp [ahead, other]

theorem ahead_visit (search : RecordsSearch) (entry : FileName × FileTree) :
    ((search.visit disk folder place entry).ahead disk folder).Perm
      (recordsAmong (FileTree.leafPlaces (opensAt disk folder) (place ++ [entry.1]) entry.2) ++
        search.ahead disk folder) := by
  fun_cases visit disk folder place search entry with
  | case1 name entries opened =>
      have here : opensAt disk folder (place ++ [name]) = true := opened
      rw [FileTree.leafPlaces, if_pos here, ahead, ahead, List.flatMap_cons, ← List.append_assoc,
        ← List.append_assoc]
      exact List.perm_append_comm.append_right _
  | case2 name entries closed =>
      have here : ¬ opensAt disk folder (place ++ [name]) = true := closed
      rw [ahead_note, FileTree.leafPlaces, if_neg here]
  | case3 name content =>
      rw [ahead_note, FileTree.leafPlaces]

/-- The entries of a folder add the places where they end, in whatever order they are listed. -/
theorem ahead_visitAll (search : RecordsSearch) (entries : List (FileName × FileTree)) :
    ((search.visitAll disk folder place entries).ahead disk folder).Perm
      (recordsAmong (FileTree.entryLeaves (opensAt disk folder) place entries) ++
        search.ahead disk folder) := by
  unfold visitAll
  induction entries generalizing search with
  | nil => exact .refl _
  | cons entry entries ih =>
      refine (ih (search.visit disk folder place entry)).trans ?_
      refine ((ahead_visit search entry).append_left _).trans ?_
      rw [FileTree.entryLeaves, recordsAmong, recordsAmong, recordsAmong, List.filter_append,
        List.append_assoc]
      exact List.perm_append_comm_assoc _ _ _

theorem run_perm (disk : Disk) (folder : RawPath) (search : RecordsSearch) :
    (search.run disk folder).Perm (search.ahead disk folder) := by
  fun_induction run disk folder search with
  | case1 found => simp [ahead]
  | case2 place entries pending found ih =>
      refine (ih.trans (ahead_visitAll ⟨pending, found⟩ entries)).trans ?_
      simp only [ahead, List.flatMap_cons]
      exact List.perm_append_comm_assoc _ _ _

end RecordsSearch

/-! ## Names of files of records -/

/-- The name ends as JSON does, but not as host dumps do, be it a text or not. -/
def EndsAsRecords (name : FileName) : Prop :=
  RawText.octets ".json" <:+ name.octets ∧ ¬ RawText.octets ".dump.json" <:+ name.octets

instance : DecidablePred EndsAsRecords := fun name =>
  inferInstanceAs (Decidable (RawText.octets ".json" <:+ name.octets ∧
    ¬ RawText.octets ".dump.json" <:+ name.octets))

theorem isRecordsName_iff {name : FileName} :
    isRecordsName name = true ↔ name.text?.isSome = true ∧ EndsAsRecords name := by
  unfold isRecordsName
  cases read : name.text? with
  | none => simp
  | some text =>
      obtain rfl := RawText.ofText_of_text? read
      have ascii : (∀ c ∈ ".json".toList, c.toNat < 128) ∧ ∀ c ∈ ".dump.json".toList, c.toNat < 128 := by
        simp
      have json := fun c member => Text.exists_isShort (ascii.1 c member)
      have dump := fun c member => Text.exists_isShort (ascii.2 c member)
      simp only [EndsAsRecords, RawText.octets_ofText, String.toList_ofList,
        Text.flatMap_isSuffix_iff json, Text.flatMap_isSuffix_iff dump, Option.isSome_some, true_and,
        Bool.and_eq_true, Bool.not_eq_true', Bool.eq_false_iff, ne_eq, List.isSuffixOf_iff_suffix]

/-! ## Folders and what is in them -/

namespace Disk

variable {disk disk' : Disk} {folder path : RawPath} {entries : List (FileName × FileTree)}
  {place : Place} {name : FileName}

theorem entries_eq_ok_iff : disk.entries path = .ok entries ↔
    ∃ place, disk.locate path = .ok place ∧ disk.tree.find? place = some (.folder entries) := by
  unfold Disk.entries
  cases disk.locate path with
  | error error => simp [bind, Except.bind]
  | ok place =>
      cases found : disk.tree.find? place with
      | none => simp [bind, Except.bind, found]
      | some tree => cases tree <;> simp [bind, Except.bind, found]

theorem isFolder_of_entries (h : disk.entries path = .ok entries) : disk.isFolder path = true := by
  obtain ⟨place, located, found⟩ := entries_eq_ok_iff.mp h
  simp [isFolder, entry?, located, found]

/-- The folders that lead to a place below a folder open at their paths, the last one too. -/
def Reaches (disk : Disk) (folder : RawPath) (place : Place) : Prop :=
  ∀ front, front <+: place → disk.isFolder (pathIn folder front) = true

/-- The search comes to a name in a folder and does not look further: a file, or a folder that does
not open. -/
structure EndsAt (disk : Disk) (folder : RawPath) (entries : List (FileName × FileTree))
    (place : Place) (name : FileName) : Prop where
  reaches : disk.Reaches folder place
  found : ∃ found, (FileTree.folder entries).find? (place ++ [name]) = some found ∧
    (found.isFolder = true → disk.isFolder (pathIn folder (place ++ [name])) = false)

theorem leafAt_iff_endsAt :
    (FileTree.folder entries).LeafAt (RecordsSearch.opensAt disk folder) [] (place ++ [name]) ↔
      disk.EndsAt folder entries place name := by
  constructor
  · rintro ⟨found, way⟩
    refine ⟨?_, found⟩
    rintro front ⟨back, rfl⟩
    exact way front (back ++ [name]) (List.append_assoc ..) (by simp)
  · rintro ⟨reaches, found⟩
    refine ⟨found, ?_⟩
    intro front back whole nonempty
    have before : front <+: place ++ [name] := ⟨back, whole.symm⟩
    rcases List.prefix_concat_iff.mp before with rfl | shorter
    · exact absurd (List.append_right_eq_self.mp whole.symm) nonempty
    · exact reaches front shorter

/-- The search succeeds where it can begin. It finds, in order and once, the places where it ends at
the name of a file of records. -/
theorem collectRecords_eq_ok (opened : disk.entries folder = .ok entries)
    (named : (FileTree.folder entries).WellNamed) :
    ∃ places : List Place, disk.collectRecords folder = .ok (places.map (pathIn folder)) ∧
      places.Pairwise (· < ·) ∧
      (∀ place ∈ places, ∃ front name, place = front ++ [name]) ∧
      ∀ place name, place ++ [name] ∈ places ↔
        disk.EndsAt folder entries place name ∧ isRecordsName name = true := by
  have perm := RecordsSearch.run_perm disk folder ⟨[([], entries)], []⟩
  have ahead : RecordsSearch.ahead disk folder ⟨[([], entries)], []⟩ = RecordsSearch.recordsAmong
      (FileTree.leafPlaces (RecordsSearch.opensAt disk folder) [] (.folder entries)) := by
    have here : RecordsSearch.opensAt disk folder [] = true := isFolder_of_entries opened
    rw [FileTree.leafPlaces, if_pos here]
    simp [RecordsSearch.ahead]
  rw [ahead] at perm
  have distinct : (RecordsSearch.run disk folder ⟨[([], entries)], []⟩).Nodup :=
    perm.nodup_iff.mpr ((FileTree.nodup_leafPlaces named []).filter _)
  refine ⟨_, by rw [collectRecords, opened]; rfl, pairwise_mergeSort_places distinct, ?_, ?_⟩
  · intro place member
    rw [List.mem_mergeSort, perm.mem_iff, RecordsSearch.recordsAmong, List.mem_filter] at member
    rcases List.eq_nil_or_concat place with rfl | ⟨front, name, rfl⟩
    · cases member.2
    · exact ⟨front, name, List.concat_eq_append⟩
  · intro place name
    rw [List.mem_mergeSort, perm.mem_iff, RecordsSearch.recordsAmong, List.mem_filter,
      FileTree.mem_leafPlaces_iff named, List.getLast?_concat]
    simp only [List.nil_append, exists_eq_left', leafAt_iff_endsAt, Option.any_some]

/-! ## Any order of listing -/

/-- A disk with the same files at the same places, in whatever order folders list them. -/
structure Relisted (disk disk' : Disk) : Prop where
  here : disk'.here = disk.here
  files : disk.tree.SameFiles disk'.tree

theorem Relisted.locate_eq (relisted : disk.Relisted disk') (path : RawPath) :
    disk'.locate path = disk.locate path := by
  unfold locate origin
  rw [relisted.here]
  simp only [relisted.files.walk_eq]

theorem Relisted.exists_entries (relisted : disk.Relisted disk')
    (h : disk.entries folder = .ok entries) :
    ∃ entries', disk'.entries folder = .ok entries' ∧
      (FileTree.folder entries).SameFiles (.folder entries') := by
  obtain ⟨place, located, found⟩ := entries_eq_ok_iff.mp h
  obtain ⟨entries', found'⟩ := relisted.files.find?_folder found
  refine ⟨entries', entries_eq_ok_iff.mpr ⟨place, ?_, found'⟩, relisted.files.below found found'⟩
  rw [relisted.locate_eq, located]

theorem Relisted.isFolder_eq (relisted : disk.Relisted disk') (path : RawPath) :
    disk'.isFolder path = disk.isFolder path := by
  unfold isFolder entry?
  rw [relisted.locate_eq]
  cases disk.locate path with
  | error error => rfl
  | ok place =>
      dsimp only
      cases found : disk.tree.find? place with
      | none => rw [relisted.files.find?_none found]
      | some standing =>
          cases standing with
          | file content => rw [relisted.files.find?_file found]
          | folder entries =>
              obtain ⟨entries', found'⟩ := relisted.files.find?_folder found
              rw [found']

theorem Relisted.opensAt_eq (relisted : disk.Relisted disk') :
    RecordsSearch.opensAt disk' folder = RecordsSearch.opensAt disk folder :=
  funext fun _ => relisted.isFolder_eq _

theorem Relisted.loadRecords_eq (relisted : disk.Relisted disk') (path : RawPath) :
    disk'.loadRecords path = disk.loadRecords path := by
  have read : disk'.read path = disk.read path := by
    unfold Disk.read
    rw [relisted.locate_eq]
    cases disk.locate path with
    | error error => rfl
    | ok place =>
        simp only [bind, Except.bind]
        cases found : disk.tree.find? place with
        | none => rw [relisted.files.find?_none found]
        | some standing =>
            cases standing with
            | file content => rw [relisted.files.find?_file found]
            | folder entries =>
                obtain ⟨entries', found'⟩ := relisted.files.find?_folder found
                rw [found']
  unfold loadRecords
  rw [read]

theorem Relisted.addFiles_eq (relisted : disk.Relisted disk') (builder : CorpusBuilder)
    (paths : List RawPath) :
    Command.addFiles disk' builder paths = Command.addFiles disk builder paths := by
  induction paths generalizing builder with
  | nil => rfl
  | cons path rest ih =>
      unfold Command.addFiles
      rw [relisted.loadRecords_eq]
      simp only [ih]

theorem wellNamed_of_entries (opened : disk.entries folder = .ok entries)
    (named : disk.tree.WellNamed) : (FileTree.folder entries).WellNamed := by
  obtain ⟨place, -, found⟩ := entries_eq_ok_iff.mp opened
  exact named.below found

/-- The same paths are found in any order of listing. -/
theorem Relisted.collectRecords_eq (relisted : disk.Relisted disk')
    (opened : disk.entries folder = .ok entries) (named : disk.tree.WellNamed)
    (named' : disk'.tree.WellNamed) : disk'.collectRecords folder = disk.collectRecords folder := by
  obtain ⟨entries', opened', same⟩ := relisted.exists_entries opened
  obtain ⟨places, collected, sorted, ends, members⟩ :=
    collectRecords_eq_ok opened (wellNamed_of_entries opened named)
  obtain ⟨places', collected', sorted', ends', members'⟩ :=
    collectRecords_eq_ok opened' (wellNamed_of_entries opened' named')
  have alike (place : Place) (name : FileName) :
      disk'.EndsAt folder entries' place name ↔ disk.EndsAt folder entries place name := by
    rw [← leafAt_iff_endsAt, ← leafAt_iff_endsAt, relisted.opensAt_eq]
    exact ⟨same.symm.leafAt, same.leafAt⟩
  have perm : places'.Perm places := by
    rw [List.perm_ext_iff_of_nodup (sorted'.imp ne_of_lt) (sorted.imp ne_of_lt)]
    intro place
    constructor
    · intro member
      obtain ⟨front, name, rfl⟩ := ends' place member
      rwa [members, ← alike, ← members']
    · intro member
      obtain ⟨front, name, rfl⟩ := ends place member
      rwa [members', alike, ← members]
  rw [collected', collected,
    perm.eq_of_pairwise (fun _ _ _ _ before after => absurd after before.not_gt) sorted' sorted]

/-! ## What is found and what is missed -/

/-- Every folder in the folder can be read at its path. -/
def AllReadable (disk : Disk) (folder : RawPath) (entries : List (FileName × FileTree)) : Prop :=
  ∀ place inner, (FileTree.folder entries).find? place = some (.folder inner) →
    ∃ listed, disk.entries (pathIn folder place) = .ok listed

theorem AllReadable.isFolder (readable : AllReadable disk folder entries)
    {inner : List (FileName × FileTree)}
    (found : (FileTree.folder entries).find? place = some (.folder inner)) :
    disk.isFolder (pathIn folder place) = true := by
  obtain ⟨listed, read⟩ := readable place inner found
  exact isFolder_of_entries read

theorem AllReadable.reaches (readable : AllReadable disk folder entries) {found : FileTree}
    (h : (FileTree.folder entries).find? (place ++ [name]) = some found) :
    disk.Reaches folder place := by
  rintro front ⟨back, rfl⟩
  obtain ⟨next, rest, whole⟩ := List.exists_cons_of_ne_nil (by simp : back ++ [name] ≠ [])
  rw [List.append_assoc, whole] at h
  obtain ⟨inner, standing⟩ := FileTree.exists_folder_of_find? h
  exact readable.isFolder standing

/-- The paths are those of all files in the folder whose names end as those of files of records. -/
def AreComplete (folder : RawPath) (entries : List (FileName × FileTree)) (paths : List RawPath) :
    Prop :=
  ∀ path, path ∈ paths ↔ ∃ place name content, path = pathIn folder (place ++ [name]) ∧
    (FileTree.folder entries).find? (place ++ [name]) = some (.file content) ∧ EndsAsRecords name

/-- No file of records is missed, and no folder is taken for one. -/
structure MissesNothing (disk : Disk) (folder : RawPath) (entries : List (FileName × FileTree)) :
    Prop where
  files : ∀ place name content,
    (FileTree.folder entries).find? (place ++ [name]) = some (.file content) → EndsAsRecords name →
      name.text?.isSome = true ∧ disk.Reaches folder place
  folders : ∀ place name inner,
    (FileTree.folder entries).find? (place ++ [name]) = some (.folder inner) →
      isRecordsName name = true → disk.Reaches folder place →
        disk.isFolder (pathIn folder (place ++ [name])) = true

/-- Where all folders can be read, all that can be amiss is a name that is no text. -/
theorem missesNothing_iff_of_readable (readable : AllReadable disk folder entries) :
    disk.MissesNothing folder entries ↔ ∀ place name content,
      (FileTree.folder entries).find? (place ++ [name]) = some (.file content) →
        EndsAsRecords name → name.text?.isSome = true := by
  constructor
  · exact fun nothing place name content found ends => (nothing.files place name content found ends).1
  · intro texts
    constructor
    · exact fun place name content found ends =>
        ⟨texts place name content found ends, readable.reaches found⟩
    · exact fun place name inner found _ _ => readable.isFolder found

theorem eq_of_pathIn_eq (named : (FileTree.folder entries).WellNamed) {place' : Place}
    {found found' : FileTree} (h : (FileTree.folder entries).find? place = some found)
    (h' : (FileTree.folder entries).find? place' = some found')
    (same : pathIn folder place = pathIn folder place') : place = place' := by
  have parts := congrArg RawPath.parts same
  rw [parts_pathIn folder (named.isPart h), parts_pathIn folder (named.isPart h')] at parts
  exact List.append_cancel_left parts

theorem areComplete_iff (named : (FileTree.folder entries).WellNamed) {paths : List RawPath}
    (members : ∀ path, path ∈ paths ↔ ∃ place name, path = pathIn folder (place ++ [name]) ∧
      disk.EndsAt folder entries place name ∧ isRecordsName name = true) :
    AreComplete folder entries paths ↔ disk.MissesNothing folder entries := by
  constructor
  · intro complete
    constructor
    · intro place name content found ends
      obtain ⟨place', name', same, ⟨reaches, found', here, -⟩, records⟩ :=
        (members _).mp ((complete _).mpr ⟨place, name, content, rfl, found, ends⟩)
      obtain ⟨rfl, rfl⟩ := List.append_inj' (eq_of_pathIn_eq named found here same) rfl |>.imp_right
        fun last => List.singleton_inj.mp last
      exact ⟨(isRecordsName_iff.mp records).1, reaches⟩
    · intro place name inner found records reaches
      by_contra closed
      have endsAt : disk.EndsAt folder entries place name :=
        ⟨reaches, _, found, fun _ => Bool.eq_false_iff.mpr closed⟩
      obtain ⟨place', name', content, same, found', -⟩ :=
        (complete _).mp ((members _).mpr ⟨place, name, rfl, endsAt, records⟩)
      rw [eq_of_pathIn_eq named found found' same, found'] at found
      cases found
  · intro nothing path
    rw [members]
    constructor
    · rintro ⟨place, name, rfl, ⟨reaches, found, here, closed⟩, records⟩
      cases found with
      | file content => exact ⟨place, name, content, rfl, here, (isRecordsName_iff.mp records).2⟩
      | folder inner =>
          have opened := nothing.folders place name inner here records reaches
          rw [closed rfl] at opened
          cases opened
    · rintro ⟨place, name, content, rfl, found, ends⟩
      obtain ⟨isText, reaches⟩ := nothing.files place name content found ends
      exact ⟨place, name, rfl, ⟨reaches, _, found, nofun⟩, isRecordsName_iff.mpr ⟨isText, ends⟩⟩

/-- The search succeeds and finds, once and sorted by the parts of their paths, the places where it
    ends at a name that is a text and ends as those of files of records. These are the files that they
    should be exactly when nothing is missed; where all folders can be read, when all their names are
    texts. Neither they nor the corpus that is built from them depend on the order in which folders are
    listed. -/
theorem collectRecords_exact (opened : disk.entries folder = .ok entries)
    (named : disk.tree.WellNamed) :
    ∃ paths, disk.collectRecords folder = .ok paths ∧
      paths.Pairwise (fun path other => path.parts < other.parts) ∧
      (∀ path, path ∈ paths ↔ ∃ place name, path = pathIn folder (place ++ [name]) ∧
        disk.EndsAt folder entries place name ∧ name.text?.isSome = true ∧ EndsAsRecords name) ∧
      (AreComplete folder entries paths ↔ disk.MissesNothing folder entries) ∧
      (AllReadable disk folder entries →
        (AreComplete folder entries paths ↔ ∀ place name content,
          (FileTree.folder entries).find? (place ++ [name]) = some (.file content) →
            EndsAsRecords name → name.text?.isSome = true)) ∧
      ∀ disk', disk.Relisted disk' → disk'.tree.WellNamed →
        disk'.collectRecords folder = .ok paths ∧
        ∀ builder, Command.addFiles disk' builder paths = Command.addFiles disk builder paths := by
  have namedFolder := wellNamed_of_entries opened named
  obtain ⟨places, collected, sorted, ends, members⟩ := collectRecords_eq_ok opened namedFolder
  have parted : ∀ place ∈ places, (pathIn folder place).parts = folder.parts ++ place := by
    intro place member
    obtain ⟨front, name, rfl⟩ := ends place member
    obtain ⟨⟨-, found, here, -⟩, -⟩ := (members front name).mp member
    exact parts_pathIn folder (namedFolder.isPart here)
  have paths : ∀ path, path ∈ places.map (pathIn folder) ↔ ∃ place name,
      path = pathIn folder (place ++ [name]) ∧ disk.EndsAt folder entries place name ∧
        isRecordsName name = true := by
    intro path
    rw [List.mem_map]
    constructor
    · rintro ⟨place, member, rfl⟩
      obtain ⟨front, name, rfl⟩ := ends place member
      exact ⟨front, name, rfl, (members front name).mp member⟩
    · rintro ⟨front, name, rfl, found⟩
      exact ⟨front ++ [name], (members front name).mpr found, rfl⟩
  have complete := areComplete_iff namedFolder paths
  refine ⟨_, collected, ?_, ?_, complete, ?_, ?_⟩
  · rw [List.pairwise_map]
    refine (List.Pairwise.and_mem.mp sorted).imp ?_
    rintro place other ⟨member, member', before⟩
    rw [parted place member, parted other member']
    exact List.append_left_lt before
  · simpa only [isRecordsName_iff] using paths
  · exact fun readable => complete.trans (missesNothing_iff_of_readable readable)
  · intro disk' relisted named'
    rw [relisted.collectRecords_eq opened named named', collected]
    exact ⟨rfl, fun builder => relisted.addFiles_eq builder _⟩

/-! A folder may itself have the name of a file of records. -/

/-- The name of a file of records, but for one octet that belongs to no character. -/
def latinName : FileName := ⟨[0x70, 0x72, 0xf6, 0x67, 0x2e, 0x6a, 0x73, 0x6f, 0x6e]⟩

/-- Entries of a folder: three files of records, one of them in a folder that is named like one and one
with a name that is no text, and two other files. -/
def nestedEntries : List (FileName × FileTree) :=
  let file := FileTree.file (.octets (Text.toOctets "\x7b\x7d".toList))
  [("a.json", .folder [("z.json", file), ("z.dump.json", file)]), ("b.json", file), (latinName, file),
    ("notes", file)]

def nestedDisk (entries : List (FileName × FileTree)) : Disk :=
  ⟨.folder [("records", .folder entries)], []⟩

theorem wellNamed_nestedEntries : (FileTree.folder nestedEntries).WellNamed := by
  refine FileTree.wellNamed_folder (by decide) ?_
  simp only [nestedEntries, List.forall_mem_cons]
  refine ⟨⟨by decide, FileTree.wellNamed_folder (by decide) ?_⟩,
    ⟨by decide, FileTree.wellNamed_file _⟩, ⟨by decide, FileTree.wellNamed_file _⟩,
    ⟨by decide, FileTree.wellNamed_file _⟩, List.forall_mem_nil _⟩
  simp only [List.forall_mem_cons]
  exact ⟨⟨by decide, FileTree.wellNamed_file _⟩, ⟨by decide, FileTree.wellNamed_file _⟩,
    List.forall_mem_nil _⟩

theorem wellNamed_nestedDisk {entries : List (FileName × FileTree)}
    (named : (FileTree.folder entries).WellNamed) : (nestedDisk entries).tree.WellNamed := by
  refine FileTree.wellNamed_folder (List.nodup_singleton _) ?_
  simp only [List.forall_mem_cons]
  exact ⟨⟨by decide, named⟩, List.forall_mem_nil _⟩

theorem opened_nestedDisk (entries : List (FileName × FileTree)) :
    (nestedDisk entries).entries "records" = .ok entries := by
  have located : (nestedDisk entries).locate "records" = .ok ["records"] := by
    rfl
  exact entries_eq_ok_iff.mpr ⟨["records"], located, rfl⟩

/-- The two files of records that have a text for a name are found, in the order of their paths and in
    whatever order the folder is listed. The third one is missed. -/
theorem collectRecords_nestedDisk :
    (nestedDisk nestedEntries).collectRecords "records" =
      .ok ["records/a.json/z.json", "records/b.json"] ∧
    (nestedDisk nestedEntries.reverse).collectRecords "records" =
      .ok ["records/a.json/z.json", "records/b.json"] ∧
    EndsAsRecords latinName ∧
    ¬ AreComplete "records" nestedEntries ["records/a.json/z.json", "records/b.json"] := by
  have perm : nestedEntries.Perm nestedEntries.reverse := (List.reverse_perm _).symm
  have standing : (nestedDisk nestedEntries).tree.find? ["records"] = some (.folder nestedEntries) := rfl
  have relisted : (nestedDisk nestedEntries).Relisted (nestedDisk nestedEntries.reverse) :=
    ⟨rfl, (FileTree.sameFiles_of_perm wellNamed_nestedEntries perm).put standing⟩
  obtain ⟨paths, collected, -, -, complete, -, others⟩ := collectRecords_exact
    (opened_nestedDisk nestedEntries) (wellNamed_nestedDisk wellNamed_nestedEntries)
  have shown : (nestedDisk nestedEntries).collectRecords "records" =
      .ok ["records/a.json/z.json", "records/b.json"] := by
    have found : RecordsSearch.run (nestedDisk nestedEntries) "records" ⟨[([], nestedEntries)], []⟩ =
        ([["a.json", "z.json"], ["b.json"]] : List (List FileName)) := by
      decide +kernel
    rw [collectRecords, opened_nestedDisk]
    simp only [Except.mapError, bind, Except.bind]
    rw [found, List.mergeSort_of_pairwise (by decide)]
    rfl
  have same := Except.ok.inj (collected.symm.trans shown)
  have ends : EndsAsRecords latinName := by
    decide +kernel
  refine ⟨shown, ?_, ends, ?_⟩
  · rw [(others _ relisted (wellNamed_nestedDisk (wellNamed_nestedEntries.perm perm))).1, same]
  · rw [← same, complete]
    intro nothing
    have isText := (nothing.files [] latinName _ rfl ends).1
    exact absurd isText (by decide +kernel)

end Disk

end SymbolCorpus
