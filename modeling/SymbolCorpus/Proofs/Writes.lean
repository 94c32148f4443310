import SymbolCorpus.Files.Disk
import SymbolCorpus.Proofs.RawTexts
import SymbolCorpus.Proofs.Trees

/-! # Writing files

A text that was written to a path is read back from it. Later writes change the files they are for
and no other; a path that led to a file before them leads to the same place after them.
-/

namespace SymbolCorpus

theorem ok_bind {ε α β : Type} (value : α) (next : α → Except ε β) :
    (Except.ok value >>= next) = next value := rfl

theorem mapError_ok {ε ε' α : Type} (change : ε → ε') (value : α) :
    (Except.ok value).mapError change = .ok value := rfl

theorem mapError_eq_ok {ε ε' α : Type} {change : ε → ε'} {answer : Except ε α} {value : α}
    (h : answer.mapError change = .ok value) : answer = .ok value := by
  cases answer with
  | error error => cases h
  | ok other => exact congrArg Except.ok (Except.ok.inj h)

theorem eq_ok_of_toOption {ε α : Type} {answer : Except ε α} {value : α}
    (h : answer.toOption = some value) : answer = .ok value := by
  cases answer with
  | error error => cases h
  | ok other => exact congrArg Except.ok (Option.some.inj h)

theorem exists_error_of_toOption {ε α : Type} {answer : Except ε α}
    (h : answer.toOption.isNone = true) : ∃ error, answer = .error error := by
  cases answer with
  | error error => exact ⟨error, rfl⟩
  | ok value => cases h

theorem bind_eq_ok {ε α β : Type} {first : Except ε α} {next : α → Except ε β} {result : β}
    (h : first >>= next = .ok result) : ∃ value, first = .ok value ∧ next value = .ok result := by
  cases first with
  | error error => cases h
  | ok value => exact ⟨value, rfl, h⟩

namespace Disk

open FileTree

/-- A disk on which every path still leads where it led on another. -/
structure Follows (new old : Disk) : Prop where
  here : new.here = old.here
  tree : Keeps new.tree old.tree

theorem Follows.refl (disk : Disk) : Follows disk disk := ⟨rfl, .refl disk.tree⟩

theorem Follows.trans {newest new old : Disk} (second : Follows newest new) (first : Follows new old) :
    Follows newest old :=
  ⟨second.here.trans first.here, second.tree.trans first.tree⟩

theorem Follows.origin {new old : Disk} (follows : Follows new old) (path : RawPath) :
    new.origin path = old.origin path := by
  unfold Disk.origin
  rw [follows.here]

/-! ## Where a new file goes -/

/-- A path to a file that can be made or replaced, by the folder and the name of the file. -/
structure Opens (disk : Disk) (path : RawPath) (folder : Place) (name : FileName) : Prop where
  walked : ∃ start, disk.origin path = .ok start ∧
    disk.tree.walk start (path.parts).dropLast = .ok folder
  last : (path.parts).getLast? = some name
  free : Free disk.tree folder name
  notHere : name ≠ "."
  notAbove : name ≠ ".."
  short : isLongName name = false
  plain : path.endsInSlash = false

theorem parent_eq_ok {disk : Disk} {path : RawPath} {folder : Place} {last : Option FileName}
    (h : disk.parent path = .ok (folder, last)) :
    (∃ start, disk.origin path = .ok start ∧
      disk.tree.walk start (path.parts).dropLast = .ok folder) ∧
    (path.parts).getLast? = last ∧ ∃ entries, disk.tree.find? folder = some (.folder entries) := by
  obtain ⟨start, origin, h⟩ := bind_eq_ok h
  obtain ⟨place, walked, h⟩ := bind_eq_ok h
  split at h
  · next entries standing =>
      cases h
      exact ⟨⟨start, origin, walked⟩, rfl, entries, standing⟩
  · cases h
  · cases h

theorem opens_of_newPlace {disk : Disk} {path : RawPath} {place : Place}
    (h : disk.newPlace path = .ok place) :
    ∃ folder name, place = folder ++ [name] ∧ disk.Opens path folder name := by
  obtain ⟨⟨folder, last⟩, inFolder, h⟩ := bind_eq_ok h
  obtain ⟨walked, rfl, standing⟩ := parent_eq_ok inFolder
  dsimp only at h
  split at h
  · cases h
  · next name named =>
      split at h
      · cases h
      · next proper =>
          simp only [Bool.or_eq_true, decide_eq_true_eq, not_or] at proper
          split at h
          · cases h
          · next short =>
              have opens (noFolder : ∀ found, disk.tree.find? (folder ++ [name]) = some found →
                  found.isFolder = false) (plain : ¬ path.endsInSlash = true) :
                  disk.Opens path folder name :=
                { walked := walked
                  last := named
                  free := ⟨standing, noFolder⟩
                  notHere := proper.1
                  notAbove := proper.2
                  short := by simpa using short
                  plain := by simpa using plain }
              split at h
              · cases h
              · next content present =>
                  split at h
                  · cases h
                  · next plain =>
                      cases h
                      refine ⟨folder, name, rfl, opens ?_ plain⟩
                      intro found same
                      rw [present] at same
                      cases same
                      rfl
              · next absent =>
                  split at h
                  · cases h
                  · next plain =>
                      cases h
                      refine ⟨folder, name, rfl, opens ?_ plain⟩
                      intro found same
                      rw [absent] at same
                      cases same

theorem Opens.newPlace {disk : Disk} {path : RawPath} {folder : Place} {name : FileName}
    (opens : disk.Opens path folder name) : disk.newPlace path = .ok (folder ++ [name]) := by
  obtain ⟨start, origin, walked⟩ := opens.walked
  obtain ⟨entries, standing⟩ := opens.free.folder
  have parent : disk.parent path = .ok (folder, some name) := by
    simp only [Disk.parent, origin, walked, standing, opens.last, bind, Except.bind]
  unfold Disk.newPlace
  rw [parent]
  simp only [bind, Except.bind, opens.notHere, opens.notAbove, opens.short, opens.plain]
  cases present : disk.tree.find? (folder ++ [name]) with
  | none => rfl
  | some found =>
      obtain ⟨content, rfl⟩ := isFolder_eq_false (opens.free.noFolder found present)
      rfl

theorem Opens.locate {old new : Disk} {path : RawPath} {folder : Place} {name : FileName}
    (opens : old.Opens path folder name) (follows : Follows new old) {found : FileTree}
    (present : new.tree.find? (folder ++ [name]) = some found) :
    new.locate path = .ok (folder ++ [name]) := by
  obtain ⟨start, origin, walked⟩ := opens.walked
  obtain ⟨entries, standing⟩ := opens.free.folder
  have parts : walkedParts path = (path.parts).dropLast ++ [name] := by
    obtain ⟨before, whole⟩ := List.getLast?_eq_some_iff.mp opens.last
    simp [walkedParts, opens.plain, whole]
  have step : new.tree.walk folder [name] = .ok (folder ++ [name]) := by
    obtain ⟨now, standingNow⟩ := follows.tree.find?_folder standing
    rw [find?_append_singleton standingNow] at present
    simp [FileTree.walk, standingNow, opens.notHere, opens.notAbove, opens.short, present]
  rw [Disk.locate, follows.origin, origin, parts]
  change new.tree.walk start _ = _
  rw [walk_append (follows.tree.walk walked), step]

/-! ## One write -/

/-- A path leads to a place, and the file there has these octets. -/
structure Holds (disk : Disk) (path : RawPath) (place : Place) (octets : ByteArray) : Prop where
  locate : disk.locate path = .ok place
  file : disk.tree.find? place = some (.file (.octets octets))

theorem Follows.locate {new old : Disk} (follows : Follows new old) {path : RawPath} {place : Place}
    (h : old.locate path = .ok place) : new.locate path = .ok place := by
  obtain ⟨start, origin, walked⟩ := bind_eq_ok h
  rw [Disk.locate, follows.origin, origin]
  exact follows.tree.walk walked

theorem write_eq_ok {old new : Disk} {path : RawPath} {octets : ByteArray}
    (h : old.write path octets = .ok new) :
    ∃ folder name, old.Opens path folder name ∧
      new = old.putContent (folder ++ [name]) (.octets octets) := by
  obtain ⟨place, opened, put⟩ := bind_eq_ok h
  obtain ⟨folder, name, rfl, opens⟩ := opens_of_newPlace opened
  cases put
  exact ⟨folder, name, opens, rfl⟩

theorem Opens.follows {disk : Disk} {path : RawPath} {folder : Place} {name : FileName}
    (opens : disk.Opens path folder name) (content : Content) :
    Follows (disk.putContent (folder ++ [name]) content) disk :=
  ⟨rfl, keeps_put opens.free content⟩

theorem Opens.holds {disk : Disk} {path : RawPath} {folder : Place} {name : FileName}
    (opens : disk.Opens path folder name) (octets : ByteArray) :
    (disk.putContent (folder ++ [name]) (.octets octets)).Holds path (folder ++ [name]) octets := by
  obtain ⟨entries, standing⟩ := opens.free.folder
  have present := find?_put_self standing name (.file (.octets octets))
  exact ⟨opens.locate (opens.follows _) present, present⟩

/-- Where a file was put, another one can be put. -/
theorem Opens.again {disk : Disk} {path : RawPath} {folder : Place} {name : FileName}
    (opens : disk.Opens path folder name) (content : Content) :
    (disk.putContent (folder ++ [name]) content).Opens path folder name := by
  have follows := opens.follows content
  obtain ⟨start, origin, walked⟩ := opens.walked
  obtain ⟨entries, standing⟩ := opens.free.folder
  have present := find?_put_self standing name (.file content)
  exact
    { walked := ⟨start, (follows.origin path).trans origin, follows.tree.walk walked⟩
      last := opens.last
      free :=
        { folder := follows.tree.find?_folder standing
          noFolder := by
            intro found there
            cases present.symm.trans there
            rfl }
      notHere := opens.notHere
      notAbove := opens.notAbove
      short := opens.short
      plain := opens.plain }

theorem write_again {old new : Disk} {path : RawPath} {octets : ByteArray}
    (h : old.write path octets = .ok new) : new.write path octets = .ok new := by
  obtain ⟨folder, name, opens, rfl⟩ := write_eq_ok h
  rw [Disk.write, (opens.again _).newPlace]
  change Except.ok _ = Except.ok _
  rw [putContent, putContent, put_put]

/-- Two disks are the same but for what a file at a place holds, or whether it is there. -/
structure SameElsewhere (new old : Disk) (place : Place) : Prop where
  here : new.here = old.here
  elsewhere : ∀ other, other ≠ place → new.tree.shapeAt? other = old.tree.shapeAt? other

theorem Opens.sameElsewhere {disk : Disk} {path : RawPath} {folder : Place} {name : FileName}
    (opens : disk.Opens path folder name) (content : Content) :
    SameElsewhere (disk.putContent (folder ++ [name]) content) disk (folder ++ [name]) :=
  ⟨rfl, fun _ apart => shapeAt?_put_file opens.free content apart⟩

theorem Holds.putContent {disk : Disk} {path : RawPath} {place : Place} {octets : ByteArray}
    (holds : disk.Holds path place octets) {other : RawPath} {folder : Place} {name : FileName}
    (opens : disk.Opens other folder name) (apart : place ≠ folder ++ [name]) (content : Content) :
    (disk.putContent (folder ++ [name]) content).Holds path place octets := by
  obtain ⟨now, present, -, kept⟩ := find?_put_file opens.free content holds.file
  have same := kept apart rfl
  subst same
  exact ⟨(opens.follows content).locate holds.locate, present⟩

theorem Holds.read {disk : Disk} {path : RawPath} {place : Place} {octets : ByteArray}
    (holds : disk.Holds path place octets) : disk.read path = .ok octets := by
  rw [Disk.read, holds.locate, ok_bind, holds.file]
  rfl

theorem read_of_write {old new : Disk} {path : RawPath} {octets : ByteArray}
    (h : old.write path octets = .ok new) : new.read path = .ok octets := by
  obtain ⟨folder, name, opens, rfl⟩ := write_eq_ok h
  exact (opens.holds _).read

theorem Holds.readText {disk : Disk} {path : RawPath} {place : Place} {text : List Char}
    (holds : disk.Holds path place (Text.toOctets text)) : disk.readText path = .ok text := by
  rw [Disk.readText, holds.read, ok_bind, Text.ofOctets?_toOctets]

theorem readText_of_write {old new : Disk} {path : RawPath} {text : List Char}
    (h : old.writeText path text = .ok new) : new.readText path = .ok text := by
  rw [Disk.readText, read_of_write h, ok_bind, Text.ofOctets?_toOctets]

theorem Holds.isNonempty {disk : Disk} {path : RawPath} {place : Place} {octets : ByteArray}
    (holds : disk.Holds path place octets) (some : octets.size ≠ 0) : disk.isNonempty path = true := by
  simp [Disk.isNonempty, Disk.entry?, holds.locate, holds.file, Content.isNonempty, some]

/-! ## A run of writes -/

theorem writeTexts_cons {old new : Disk} {path : String} {text : List Char}
    {rest : List (String × List Char)} (h : old.writeTexts ((path, text) :: rest) = (new, none)) :
    ∃ next, old.writeText path text = .ok next ∧ next.writeTexts rest = (new, none) := by
  unfold writeTexts at h
  split at h
  · next next written => exact ⟨next, written, h⟩
  · cases h

theorem writeTexts_append {old new : Disk} {before after : List (String × List Char)}
    (h : old.writeTexts (before ++ after) = (new, none)) :
    ∃ next, old.writeTexts before = (next, none) ∧ next.writeTexts after = (new, none) := by
  induction before generalizing old with
  | nil => exact ⟨old, rfl, h⟩
  | cons first rest ih =>
      obtain ⟨second, written, h⟩ := writeTexts_cons h
      obtain ⟨next, run, h⟩ := ih h
      refine ⟨next, ?_, h⟩
      rw [writeTexts, written]
      exact run

/-- After a run of writes every path still leads where it led, and each path that was written leads
    to a file of its own last part. -/
theorem writeTexts_follows {old new : Disk} {texts : List (String × List Char)}
    (h : old.writeTexts texts = (new, none)) :
    Follows new old ∧ ∀ text ∈ texts, ∃ place, new.locate text.1 = .ok place ∧
      place.getLast? = (RawPath.parts text.1).getLast? := by
  induction texts generalizing old with
  | nil =>
      cases h
      exact ⟨.refl _, fun text impossible => by cases impossible⟩
  | cons first rest ih =>
      obtain ⟨path, text⟩ := first
      obtain ⟨next, written, h⟩ := writeTexts_cons h
      obtain ⟨folder, name, opens, rfl⟩ := write_eq_ok written
      obtain ⟨follows, located⟩ := ih h
      refine ⟨follows.trans (opens.follows _), ?_⟩
      intro other member
      rcases List.mem_cons.mp member with rfl | later
      · refine ⟨folder ++ [name], follows.locate (opens.holds _).locate, ?_⟩
        rw [List.getLast?_concat, opens.last]
      · exact located other later

theorem Holds.writeTexts {old new : Disk} {path : RawPath} {place : Place} {octets : ByteArray}
    (holds : old.Holds path place octets) {texts : List (String × List Char)}
    (h : old.writeTexts texts = (new, none))
    (apart : ∀ text ∈ texts, new.locate text.1 ≠ .ok place) : new.Holds path place octets := by
  induction texts generalizing old with
  | nil =>
      cases h
      exact holds
  | cons first rest ih =>
      obtain ⟨other, text⟩ := first
      obtain ⟨next, written, h⟩ := writeTexts_cons h
      obtain ⟨folder, name, opens, rfl⟩ := write_eq_ok written
      have elsewhere : place ≠ folder ++ [name] := by
        rintro rfl
        have located := (writeTexts_follows h).1.locate (opens.holds _).locate
        exact apart (other, text) List.mem_cons_self located
      apply ih (holds.putContent opens elsewhere _) h
      exact fun text later => apart text (List.mem_cons_of_mem _ later)

theorem readText_of_writeTexts {old new : Disk} {before after : List (String × List Char)}
    {path : String} {text : List Char}
    (h : old.writeTexts (before ++ (path, text) :: after) = (new, none))
    (last : ∀ later ∈ after, new.locate later.1 ≠ new.locate path) :
    new.readText path = .ok text := by
  obtain ⟨next, -, h⟩ := writeTexts_append h
  obtain ⟨written, put, h⟩ := writeTexts_cons h
  obtain ⟨folder, name, opens, rfl⟩ := write_eq_ok put
  have holds := opens.holds (Text.toOctets text)
  have located := (writeTexts_follows h).1.locate holds.locate
  rw [located] at last
  exact (holds.writeTexts h last).readText

end Disk

end SymbolCorpus
