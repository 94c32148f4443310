import SymbolCorpus.Command.Build
import SymbolCorpus.Proofs.Alignment
import SymbolCorpus.Proofs.Deduplication
import SymbolCorpus.Proofs.LedgerEntries
import SymbolCorpus.Proofs.Sessions

/-! # The ledger of corpora

A corpus is built from all files of records or not at all: as long as one of them cannot be loaded,
nothing is written and nothing is entered. What is entered for a corpus is what was written, and in
every representation each record of the files was kept or dropped.
-/

namespace SymbolCorpus.Command

variable {project : Project} {disk : Disk} {before after : Session}

/-! ## Loading all files -/

theorem addFiles_eq_ok {builder corpus : CorpusBuilder} {paths : List RawPath}
    (h : addFiles disk builder paths = .ok corpus) :
    ∃ maps, List.Forall₂ (fun path records => disk.loadRecords path = .ok records) paths maps ∧
      corpus = (maps.map Addition.all).foldl CorpusBuilder.apply builder := by
  induction paths generalizing builder with
  | nil =>
      cases h
      exact ⟨[], .nil, rfl⟩
  | cons path rest ih =>
      obtain ⟨records, loaded, h⟩ := bind_eq_ok h
      obtain ⟨maps, others, whole⟩ := ih h
      exact ⟨records :: maps, .cons loaded others, whole⟩

theorem addFiles_of_error {paths : List RawPath} {path : RawPath} {cause : CorpusError}
    (given : path ∈ paths) (fails : disk.loadRecords path = .error cause) (builder : CorpusBuilder) :
    ∃ cause, addFiles disk builder paths = .error cause := by
  induction paths generalizing builder with
  | nil => cases given
  | cons first rest ih =>
      rw [addFiles]
      cases loaded : disk.loadRecords first with
      | error other => exact ⟨other, rfl⟩
      | ok records =>
          rcases List.mem_cons.mp given with rfl | later
          · rw [fails] at loaded
            cases loaded
          · exact ih later (builder.addRecords records)

/-! ## Writing and entering -/

theorem writeCorpus_eq_ok {builder : CorpusBuilder} {folder split : String}
    {files : List CorpusFiles}
    (h : (writeCorpus builder folder split).run.run before = (.ok files, after)) :
    builder.write before.disk folder split = (after.disk, .ok files) ∧ after.now = before.now := by
  rw [writeCorpus, run_disk_bind] at h
  cases written : builder.write before.disk folder split with
  | mk disk answer =>
      rw [written] at h
      dsimp only at h
      rw [run_setDisk_bind] at h
      obtain ⟨rfl, rfl⟩ := run_orFail_eq_ok h
      exact ⟨rfl, rfl⟩

theorem enterBuild_run_eq_ok {build : BuildRecord}
    (h : (enterBuild project build).run.run before = (.ok (), after)) :
    project.enterBuild before.disk build = .ok after.disk := by
  rw [enterBuild, run_disk_bind] at h
  cases entered : project.enterBuild before.disk build with
  | error cause =>
      rw [entered] at h
      cases h
  | ok disk =>
      rw [entered] at h
      cases h
      rfl

/-- Builds that were all entered are behind the rows of the ledger that was there. -/
theorem forM_enterBuild_eq_ok {builds : List BuildRecord} {ledger : Ledger}
    (h : (builds.forM (enterBuild project)).run.run before = (.ok (), after))
    (there : before.disk.HasLedger project.ledgerPlace ledger) :
    after.disk = before.disk.putLedger project.ledgerPlace (ledger.withBuilds builds) := by
  induction builds generalizing before ledger with
  | nil =>
      cases h
      rw [Ledger.withBuilds_nil, there.putLedger_self]
  | cons build rest ih =>
      rw [List.forM] at h
      obtain ⟨_, between, first, h⟩ := run_bind_eq_ok h
      obtain ⟨found, present, entered⟩ := Project.enterBuild_eq_ok (enterBuild_run_eq_ok first)
      cases there.unique present
      have next := present.put (ledger.withBuilds [build])
      rw [← entered] at next
      rw [ih h next, entered, Disk.putLedger_putLedger, Ledger.withBuilds_withBuilds]
      rfl

theorem exists_hasLedger_of_forM {build : BuildRecord} {rest : List BuildRecord}
    (h : ((build :: rest).forM (enterBuild project)).run.run before = (.ok (), after)) :
    ∃ ledger, before.disk.HasLedger project.ledgerPlace ledger := by
  rw [List.forM] at h
  obtain ⟨_, between, first, -⟩ := run_bind_eq_ok h
  obtain ⟨ledger, present, -⟩ := Project.enterBuild_eq_ok (enterBuild_run_eq_ok first)
  exact ⟨ledger, present⟩

/-- Every record of the files is kept or dropped. -/
theorem pairs_add_dropped_filesOf (segmenter : Identifier.Segmenter) (dedup : Bool)
    (maps : List RecordMap) (folder split : String) (representation : Representation) :
    let files :=
      (CorpusBuilder.build segmenter dedup (maps.map .all)).filesOf folder split representation
    files.pairs + files.dropped = (maps.flatMap RecordMap.records).length := by
  have records : (maps.map Addition.all).flatMap Addition.records = maps.flatMap RecordMap.records :=
    List.flatMap_map ..
  intro files
  rw [← records, ← CorpusBuilder.length_pairs_add_dropped segmenter dedup _ representation,
    ← pairs_filesOf folder split representation]
  rfl

theorem holdsLines_putLedger {segmenter : Identifier.Segmenter} {dedup : Bool}
    {additions : List Addition} {old written : Disk} {folder split : String}
    {files : List CorpusFiles}
    (h : (CorpusBuilder.build segmenter dedup additions).write old folder split = (written, .ok files))
    {place : Place} {ledger : Ledger} (there : written.HasLedger place ledger) (now : Ledger)
    {file : CorpusFiles} (member : file ∈ files) :
    ∃ targets, (written.putLedger place now).HoldsLines file.targetPath file.pairs targets := by
  obtain ⟨rfl, -⟩ := CorpusBuilder.write_eq_ok h
  obtain ⟨representation, -, rfl⟩ := List.mem_map.mp member
  have read := there.readText_putLedger (CorpusBuilder.readText_targetPath h representation) now
  rw [(CorpusBuilder.isEven_build segmenter dedup additions).targets_eq] at read
  have unbroken : ∀ line ∈ ((CorpusBuilder.build segmenter dedup additions).pairs representation).map
      (·.target), '\n' ∉ line :=
    List.forall_mem_map.mpr fun _ kept => newline_not_mem_target kept
  have holds := (Disk.holdsLines_iff read rfl).mpr ⟨rfl, unbroken⟩
  rw [List.length_map, ← pairs_filesOf folder split] at holds
  exact ⟨_, holds⟩

/-! ## The command -/

/-- The folder whose records a request asks for. -/
def BuildRequest.recordsIn (request : BuildRequest) (project : Project) : String :=
  (request.records.map project.layout.resolve).getD project.layout.recordsFolder

/-- The folder that a request asks for the corpus. -/
def BuildRequest.corpusIn (request : BuildRequest) (project : Project) : String :=
  (request.out.map project.layout.resolve).getD (project.layout.splitFolder request.split)

/-- The folder cannot be searched, or a file that was found in it cannot be loaded. -/
inductive Unloadable (disk : Disk) (folder : RawPath) : Prop where
  | folder {cause : CorpusError} : disk.collectRecords folder = .error cause → Unloadable disk folder
  | file {paths : List RawPath} {path : RawPath} {cause : CorpusError} :
      disk.collectRecords folder = .ok paths → path ∈ paths →
      disk.loadRecords path = .error cause → Unloadable disk folder

/-- A corpus that was built, written and entered. -/
structure Built (project : Project) (request : BuildRequest) (before : Session) (ledger : Ledger)
    (maps : List RecordMap) (files : List CorpusFiles) (after : Disk) : Prop where
  loaded : ∃ paths, before.disk.collectRecords (request.recordsIn project) = .ok paths ∧
    List.Forall₂ (fun path records => before.disk.loadRecords path = .ok records) paths maps
  written : ∃ segmenter disk, project.loadSegmenter before.disk = .ok segmenter ∧
    (CorpusBuilder.build segmenter request.dedup (maps.map .all)).write before.disk
      (request.corpusIn project) request.split = (disk, .ok files) ∧
    after = disk.putLedger project.ledgerPlace
      (ledger.withBuilds (files.map (buildRecord before.now)))
  order : (files.map (buildRecord before.now)).map (·.representation) = ["inst", "llil", "mlil", "pc"]
  /-- A file of targets has as many lines as it was entered with. -/
  lines : ∀ file ∈ files, ∃ targets, after.HoldsLines file.targetPath file.pairs targets
  total : ∀ file ∈ files, file.pairs + file.dropped = (maps.flatMap RecordMap.records).length
  /-- So it is entered. -/
  entered : ∀ row ∈ files.map (buildRecord before.now),
    row.pairs + row.dropped = Int64.ofNat (maps.flatMap RecordMap.records).length
  ledger : after.HasLedger project.ledgerPlace
    (ledger.withBuilds (files.map (buildRecord before.now)))

theorem buildCorpus_of_unloadable {request : BuildRequest} {opened : Session}
    (opens : (openProject request.root).run.run before = (.ok project, opened))
    (fails : Unloadable opened.disk (request.recordsIn project)) :
    ∃ error, (buildCorpus request).run.run before = (.error error, opened) := by
  rw [buildCorpus, run_bind_of_ok opens]
  dsimp only
  rw [run_disk_bind]
  cases project.loadSegmenter opened.disk with
  | error cause => exact ⟨_, run_orFail_error_bind ..⟩
  | ok segmenter =>
      rw [run_orFail_ok_bind]
      cases fails with
      | folder unsearched =>
          rw [BuildRequest.recordsIn] at unsearched
          rw [unsearched]
          exact ⟨_, run_orFail_error_bind ..⟩
      | file collected given unread =>
          rw [BuildRequest.recordsIn] at collected
          obtain ⟨cause, failed⟩ := addFiles_of_error given unread (.empty segmenter request.dedup)
          rw [collected, run_orFail_ok_bind, failed]
          exact ⟨_, run_orFail_error_bind ..⟩

theorem buildCorpus_eq_ok {request : BuildRequest} {opened : Session} {ledger : Ledger}
    (opens : (openProject request.root).run.run before = (.ok project, opened))
    (there : opened.disk.HasLedger project.ledgerPlace ledger)
    (h : (buildCorpus request).run.run before = (.ok (), after)) :
    ∃ maps files, Built project request opened ledger maps files after.disk := by
  rw [buildCorpus, run_bind_of_ok opens] at h
  dsimp only at h
  rw [run_disk_bind] at h
  obtain ⟨segmenter, segmenterLoaded, h⟩ := run_orFail_bind_eq_ok h
  obtain ⟨paths, collected, h⟩ := run_orFail_bind_eq_ok h
  obtain ⟨corpus, added, h⟩ := run_orFail_bind_eq_ok h
  obtain ⟨files, between, ran, h⟩ := run_bind_eq_ok h
  obtain ⟨written, time⟩ := writeCorpus_eq_ok ran
  rw [run_now_bind, run_print_bind, time] at h
  obtain ⟨maps, loaded, whole⟩ := addFiles_eq_ok added
  rw [whole] at written
  obtain ⟨shape, made, folders, run⟩ := CorpusBuilder.write_eq_ok written
  have some : ∃ ledger, between.disk.HasLedger project.ledgerPlace ledger := by
    rw [shape] at h
    obtain ⟨found, present⟩ := exists_hasLedger_of_forM h
    exact ⟨found, present⟩
  obtain ⟨found, present⟩ := some
  -- The entries need a ledger on the disk that was written to, and no file that is written is one.
  cases there.unique ((present.of_writeTexts run).of_makeFolders folders)
  have entered := forM_enterBuild_eq_ok h present
  have total : ∀ file ∈ files, file.pairs + file.dropped = (maps.flatMap RecordMap.records).length := by
    intro file member
    rw [shape] at member
    obtain ⟨representation, -, rfl⟩ := List.mem_map.mp member
    exact pairs_add_dropped_filesOf segmenter request.dedup maps _ _ representation
  refine ⟨maps, files, ?_⟩
  exact
    { loaded := ⟨paths, collected, loaded⟩
      written := ⟨segmenter, between.disk, segmenterLoaded, written, entered⟩
      order := by
        rw [shape]
        rfl
      lines := by
        intro file member
        rw [entered]
        exact holdsLines_putLedger written present _ member
      total := total
      entered := by
        intro row member
        obtain ⟨file, written, rfl⟩ := List.mem_map.mp member
        rw [← total file written]
        exact (Int64.ofNat_add ..).symm
      ledger := by
        rw [entered]
        exact present.put _ }

/-- A corpus is built from all files of records or not at all. When one of them cannot be loaded the
    command fails and leaves everything as it was. When it succeeds there are four builds more, and in
    each of them every record of the files is a pair or was dropped. -/
theorem buildCorpus_all_or_nothing (request : BuildRequest) {ledger : Ledger}
    (opens : ((openProject request.root).run.run before).1 = .ok project)
    (there : project.ledger before.disk = .ok ledger)
    (current : ledger.version = Ledger.currentVersion) :
    (Unloadable before.disk (request.recordsIn project) →
      ∃ error, (buildCorpus request).run.run before = (.error error, before)) ∧
    ∀ after, (buildCorpus request).run.run before = (.ok (), after) →
      ∃ maps files, Built project request before ledger maps files after.disk ∧
        ∀ split, (ledger.withBuilds (files.map (buildRecord before.now))).listBuilds split =
          (ledger.listBuilds split).map
            (· ++ (files.map (buildRecord before.now)).filter
              fun row => split.all (row.split == ·)) := by
  have notFresh : ledger ≠ .fresh := by
    rintro rfl
    exact absurd current (by decide)
  have standing := Disk.hasLedger_of_ledgerAt there notFresh
  obtain ⟨opened, ran⟩ := exists_run_of_ok opens
  cases openProject_of_current ran standing current
  constructor
  · intro fails
    exact buildCorpus_of_unloadable ran fails
  · intro after built
    obtain ⟨maps, files, built⟩ := buildCorpus_eq_ok ran standing built
    exact ⟨maps, files, built, Ledger.listBuilds_withBuilds ledger _⟩

/-- A ledger of the current schema without rows. -/
def noRows : Ledger := ⟨Ledger.currentVersion, some .empty, some .empty⟩

/-- A project with one file of records. -/
def oneFile (text : String) : Session :=
  let file (text : String) := FileTree.file (.octets (Text.toOctets text.toList))
  .start
    ⟨.folder
      [(".namecorpus", .folder
          [("project.json", file "[\"demo\", null, \"0.1.0\", [\"project.db\"]]")]),
        ("project.db", .file (.ledger noRows)), ("records", .folder [("prog.json", file text)])], []⟩
    "noon" .empty

/-- A record with a name and one without. -/
def twoRecords : String :=
  "\x7b\"0_9\": [0, \"0_9\", \"main\", [], [], [], [\"x\"]], \"9_9\": [9, \"9_9\", \"_\", [], [], [], []]\x7d"

/-- A build of all records of the project. -/
def buildAll : BuildRequest := ⟨".", none, "train", none, false⟩

/-- The builds of a corpus with one pair and one dropped record in every representation. -/
def oneOfTwo : List BuildRecord :=
  ["inst", "llil", "mlil", "pc"].map fun tag =>
    ⟨"train", tag, 1, 1, "/corpus/train/src-train-" ++ tag ++ ".txt",
      "/corpus/train/tgt-train-" ++ tag ++ ".txt", "noon"⟩

/-- Of two records one is kept in every representation and one is dropped. From a file that is broken
    nothing is built. -/
theorem buildCorpus_oneFile :
    (∃ project after maps files,
      ((openProject buildAll.root).run.run (oneFile twoRecords)).1 = .ok project ∧
      project.ledger (oneFile twoRecords).disk = .ok noRows ∧
      (buildCorpus buildAll).run.run (oneFile twoRecords) = (.ok (), after) ∧
      Built project buildAll (oneFile twoRecords) noRows maps files after.disk ∧
      files.map (buildRecord "noon") = oneOfTwo) ∧
    ∃ error, (buildCorpus buildAll).run.run (oneFile "[") = (.error error, oneFile "[") := by
  constructor
  · have opens : ((openProject buildAll.root).run.run (oneFile twoRecords)).1.toOption.map
        (·.ledgerPlace) = some ([("project.db" : FileName)] : Place) := by
      decide +kernel
    obtain ⟨project, found, place⟩ := Option.map_eq_some_iff.mp opens
    have there : project.ledger (oneFile twoRecords).disk = .ok noRows := by
      rw [Project.ledger, place]
      rfl
    have listed : finish ["project.db"] (·.listBuilds none)
        ((buildCorpus buildAll).run.run (oneFile twoRecords)) = (none, some oneOfTwo) := by
      decide +kernel
    obtain ⟨after, ledger, ran, standing, rows⟩ := of_finish listed
    obtain ⟨-, succeeds⟩ := buildCorpus_all_or_nothing buildAll (eq_ok_of_toOption found) there rfl
    obtain ⟨maps, files, built, lists⟩ := succeeds after ran
    refine ⟨project, after, maps, files, eq_ok_of_toOption found, there, ran, built, ?_⟩
    have same := built.ledger.ledgerAt
    rw [place, standing] at same
    cases same
    have everyRow : ((files.map (buildRecord "noon")).filter fun row =>
        Option.all (fun split => row.split == split) none) = files.map (buildRecord "noon") :=
      List.filter_eq_self.mpr fun _ _ => rfl
    have appended := (lists none).symm.trans rows
    exact everyRow.symm.trans (Except.ok.inj appended)
  · have opens : ((openProject buildAll.root).run.run (oneFile "[")).1.toOption.map
        (fun project => (project.layout, project.ledgerPlace)) =
          some (⟨"/"⟩, [("project.db" : FileName)]) := by
      decide +kernel
    obtain ⟨project, found, shown⟩ := Option.map_eq_some_iff.mp opens
    obtain ⟨layout, place⟩ := Prod.mk.inj shown
    have there : project.ledger (oneFile "[").disk = .ok noRows := by
      rw [Project.ledger, place]
      rfl
    have missing : ((oneFile "[").disk.loadRecords "/records/prog.json").toOption.isNone := by
      decide +kernel
    have collected : ((oneFile "[").disk.collectRecords (buildAll.recordsIn project)).toOption =
        some [("/records/prog.json" : RawPath)] := by
      rw [BuildRequest.recordsIn, layout]
      decide +kernel
    obtain ⟨cause, unread⟩ := exists_error_of_toOption missing
    have fails := Unloadable.file (eq_ok_of_toOption collected) List.mem_cons_self unread
    exact (buildCorpus_all_or_nothing buildAll (eq_ok_of_toOption found) there rfl).1 fails

end SymbolCorpus.Command
