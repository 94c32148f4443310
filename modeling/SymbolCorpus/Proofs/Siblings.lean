import SymbolCorpus.Proofs.CorpusPaths
import SymbolCorpus.Proofs.Writes

/-! # Files of one folder

A path with a further ending leads to a file beside the one that the path leads to.
When a file is put into a folder, every path to a file of another name in that
folder leads to what it led to, or fails as it failed.
-/

namespace SymbolCorpus

open Text

namespace Path

theorem toList_withSuffix (path suffix : String) :
    (withSuffix path suffix).toList = path.toList ++ '.' :: suffix.toList := by
  simp [withSuffix]

theorem ofList_append_suffix (stem : List Char) (suffix : String) :
    String.ofList (stem ++ '.' :: suffix.toList) = withSuffix (String.ofList stem) suffix := by
  rw [← String.toList_inj, toList_withSuffix, String.toList_ofList, String.toList_ofList]

theorem isAbsolute_withSuffix (path suffix : String) :
    isAbsolute (withSuffix path suffix) = isAbsolute path := by
  rw [isAbsolute, toList_withSuffix, isAbsolute]
  cases path.toList with
  | nil => rfl
  | cons c rest => rfl

theorem endsInSlash_withSuffix (path : String) {suffix : String} (plain : '/' ∉ suffix.toList) :
    endsInSlash (withSuffix path suffix) = false := by
  cases last : suffix.toList.getLast? with
  | none => simp [endsInSlash, toList_withSuffix, List.getLast?_append, List.getLast?_cons, last]
  | some c =>
      have unlike : c ≠ '/' := fun same => plain (same ▸ List.mem_of_getLast? last)
      simp [endsInSlash, toList_withSuffix, List.getLast?_append, List.getLast?_cons, last, unlike]

theorem withSuffix_injective (path : String) : Function.Injective (withSuffix path) := by
  intro suffix other same
  have texts := congrArg String.toList same
  rw [toList_withSuffix, toList_withSuffix] at texts
  exact String.toList_inj.mp (List.cons_inj_right _ |>.mp (List.append_cancel_left texts))

/-- The parts of a path with an ending are the same but for the ending of the last. -/
theorem exists_parts_withSuffix (path : String) :
    ∃ others stem, ∀ suffix : String, '/' ∉ suffix.toList →
      parts (withSuffix path suffix) = others ++ [withSuffix stem suffix] := by
  obtain ⟨others, last, cut⟩ := exists_parts_append path.toList
  refine ⟨others, String.ofList last, fun suffix plain => ?_⟩
  rw [cut _ _ (toList_withSuffix path suffix) (by simp) (by simp [plain]), ofList_append_suffix]

theorem exists_parts_of_plain {path : String} (some : path ≠ "") (plain : endsInSlash path = false) :
    ∃ others stem, stem ≠ "" ∧ parts path = others ++ [stem] ∧ ∀ suffix : String,
      '/' ∉ suffix.toList → parts (withSuffix path suffix) = others ++ [withSuffix stem suffix] := by
  obtain ⟨front, c, whole⟩ : ∃ front c, path.toList = front ++ [c] :=
    ⟨_, _, (List.dropLast_concat_getLast (by simpa using some : path.toList ≠ [])).symm⟩
  have unlike : c ≠ '/' := by simpa [endsInSlash, whole] using plain
  obtain ⟨others, last, cut⟩ := exists_parts_append front
  refine ⟨others, String.ofList (last ++ [c]), by simp, ?_, fun suffix plainSuffix => ?_⟩
  · exact cut path [c] whole (List.cons_ne_nil c []) (by simpa using unlike.symm)
  · have longer : (withSuffix path suffix).toList = front ++ c :: '.' :: suffix.toList := by
      rw [toList_withSuffix, whole, List.append_assoc, List.singleton_append]
    rw [cut _ _ longer (List.cons_ne_nil c _) (by simp [unlike.symm, plainSuffix]),
      ← ofList_append_suffix, List.append_assoc, List.singleton_append]

end Path

/-! ## Paths of one folder -/

namespace Disk

open FileTree

/-- The path names a file, or where one could be, in a folder that is there. -/
structure Names (disk : Disk) (path : String) (folder : Place) (name : String) : Prop where
  walked : disk.tree.walk (if Path.isAbsolute path then [] else disk.here)
    ((Path.parts path).dropLast.map RawText.ofText) = .ok folder
  last : (Path.parts path).getLast? = some name
  plain : Path.endsInSlash path = false
  notHere : name ≠ "."
  notAbove : name ≠ ".."
  folder : ∃ entries, disk.tree.find? folder = some (.folder entries)

theorem origin_eq_ok {disk : Disk} {path : String} {start : Place} (h : disk.origin path = .ok start) :
    start = if Path.isAbsolute path then [] else disk.here := by
  rw [← RawPath.isAbsolute_ofText]
  unfold Disk.origin at h
  split at h
  · cases h
  · split at h
    · cases h
    · split at h
      · cases h
      · exact (Except.ok.inj h).symm

/-- A path leads to the same place on two disks, and to the same tree or nothing there. -/
structure SameAt (new old : Disk) (path : RawPath) : Prop where
  locate : new.locate path = old.locate path
  find? : ∀ place, old.locate path = .ok place → new.tree.find? place = old.tree.find? place

namespace SameAt

variable {new old : Disk} {path : RawPath}

theorem refl (disk : Disk) (path : RawPath) : SameAt disk disk path := ⟨rfl, fun _ _ => rfl⟩

theorem trans {newest : Disk} (second : SameAt newest new path) (first : SameAt new old path) :
    SameAt newest old path where
  locate := second.locate.trans first.locate
  find? place located :=
    (second.find? place (first.locate.trans located)).trans (first.find? place located)

theorem read (h : SameAt new old path) : new.read path = old.read path := by
  unfold Disk.read
  rw [h.locate]
  cases located : old.locate path with
  | error error => rfl
  | ok place => simp only [bind, Except.bind, h.find? place located]

theorem readText (h : SameAt new old path) : new.readText path = old.readText path := by
  unfold Disk.readText
  rw [h.read]

theorem entry? (h : SameAt new old path) : new.entry? path = old.entry? path := by
  unfold Disk.entry?
  rw [h.locate]
  cases located : old.locate path with
  | error error => rfl
  | ok place => exact h.find? place located

theorem isFile (h : SameAt new old path) : new.isFile path = old.isFile path := by
  unfold Disk.isFile
  rw [h.entry?]

theorem isNonempty (h : SameAt new old path) : new.isNonempty path = old.isNonempty path := by
  unfold Disk.isNonempty
  rw [h.entry?]

end SameAt

namespace Names

variable {disk : Disk} {path : String} {folder : Place} {name : String}

theorem withSuffix (names : disk.Names path folder name) {suffix : String} (nonempty : suffix ≠ "")
    (plain : '/' ∉ suffix.toList) :
    disk.Names (Path.withSuffix path suffix) folder (Path.withSuffix name suffix) := by
  have walked := names.walked
  have last := names.last
  have some : path ≠ "" := by
    rintro rfl
    cases last
  obtain ⟨others, stem, named, here, longer⟩ := Path.exists_parts_of_plain some names.plain
  rw [here, List.getLast?_concat] at last
  obtain rfl := Option.some.inj last
  rw [here, List.dropLast_concat] at walked
  have long : 2 < (Path.withSuffix stem suffix).toList.length := by
    have first := List.length_pos_iff.mpr (by simpa using named : stem.toList ≠ [])
    have second := List.length_pos_iff.mpr (by simpa using nonempty : suffix.toList ≠ [])
    rw [Path.toList_withSuffix, List.length_append, List.length_cons]
    omega
  exact
    { walked := by
        rw [Path.isAbsolute_withSuffix, longer suffix plain, List.dropLast_concat]
        exact walked
      last := by rw [longer suffix plain, List.getLast?_concat]
      plain := Path.endsInSlash_withSuffix path plain
      notHere := fun same => by simp [same] at long
      notAbove := fun same => by simp [same] at long
      folder := names.folder }

/-- Where a path with one ending can be opened, a path with another ending names a file beside it. -/
theorem of_opens {ending other : String} {fileName : FileName}
    (opens : disk.Opens (Path.withSuffix path ending) folder fileName)
    (plain : '/' ∉ ending.toList) (plainOther : '/' ∉ other.toList) {c : Char}
    (last : other.toList.getLast? = some c) (letter : c ≠ '.') :
    ∃ stem : String, fileName = Path.withSuffix stem ending ∧
      disk.Names (Path.withSuffix path other) folder (Path.withSuffix stem other) := by
  obtain ⟨others, stem, partsOf⟩ := Path.exists_parts_withSuffix path
  obtain ⟨start, origin, walked⟩ := opens.walked
  have named := opens.last
  rw [origin_eq_ok origin, Path.isAbsolute_withSuffix, RawPath.parts_ofText, partsOf ending plain,
    ← List.map_dropLast, List.dropLast_concat] at walked
  rw [RawPath.parts_ofText, partsOf ending plain, List.getLast?_map, List.getLast?_concat,
    Option.map_some] at named
  have final : (Path.withSuffix stem other).toList.getLast? = some c := by
    simp [Path.toList_withSuffix, List.getLast?_append, List.getLast?_cons, last]
  have noPoint (points : String) (ends : points.toList.getLast? = some '.') :
      Path.withSuffix stem other ≠ points := by
    rintro rfl
    exact letter (Option.some.inj (final.symm.trans ends))
  exact ⟨stem, (Option.some.inj named).symm,
    { walked := by
        rw [Path.isAbsolute_withSuffix, partsOf other plainOther, List.dropLast_concat]
        exact walked
      last := by rw [partsOf other plainOther, List.getLast?_concat]
      plain := Path.endsInSlash_withSuffix path plainOther
      notHere := noPoint "." (by decide)
      notAbove := noPoint ".." (by decide)
      folder := opens.free.folder }⟩

theorem locate_eq (names : disk.Names path folder name) :
    disk.locate path = (disk.origin path).bind fun _ => disk.tree.walk folder [↑name] := by
  have parts : walkedParts path =
      (Path.parts path).dropLast.map RawText.ofText ++ [(name : FileName)] := by
    obtain ⟨before, whole⟩ := List.getLast?_eq_some_iff.mp names.last
    simp [walkedParts, RawPath.endsInSlash_ofText, RawPath.parts_ofText, names.plain, whole]
  rw [Disk.locate, parts]
  cases origin : disk.origin path with
  | error error => rfl
  | ok start =>
      rw [origin_eq_ok origin]
      exact walk_append names.walked [↑name]

theorem notHereRaw (names : disk.Names path folder name) : (name : FileName) ≠ "." :=
  RawText.ofText_injective.ne names.notHere

theorem notAboveRaw (names : disk.Names path folder name) : (name : FileName) ≠ ".." :=
  RawText.ofText_injective.ne names.notAbove

theorem follows (names : disk.Names path folder name) {new : Disk} (follows : Follows new disk) :
    new.Names path folder name where
  walked := by
    rw [follows.here]
    exact follows.tree.walk names.walked
  last := names.last
  plain := names.plain
  notHere := names.notHere
  notAbove := names.notAbove
  folder := by
    obtain ⟨entries, standing⟩ := names.folder
    exact follows.tree.find?_folder standing

theorem eq_of_opens (names : disk.Names path folder name) {place : Place} {other : FileName}
    (opens : disk.Opens path place other) : place = folder ∧ other = name := by
  obtain ⟨start, origin, walked⟩ := opens.walked
  rw [origin_eq_ok origin, RawPath.parts_ofText, ← List.map_dropLast, names.walked] at walked
  have last := opens.last
  rw [RawPath.parts_ofText, List.getLast?_map, names.last, Option.map_some] at last
  exact ⟨(Except.ok.inj walked).symm, (Option.some.inj last).symm⟩

theorem sameAt_put (names : disk.Names path folder name) {other : FileName} (apart : ↑name ≠ other)
    (free : Free disk.tree folder other) (content : Content) :
    SameAt (disk.putContent (folder ++ [other]) content) disk path := by
  have follows : Follows (disk.putContent (folder ++ [other]) content) disk :=
    ⟨rfl, keeps_put free content⟩
  have after := names.follows follows
  obtain ⟨entries, standing⟩ := names.folder
  have standingAfter : (disk.putContent (folder ++ [other]) content).tree.find? folder =
      some (.folder (setEntry other (.file content) entries)) :=
    find?_put_folder standing other (.file content)
  have entry : lookUp ↑name (setEntry other (.file content) entries) = lookUp ↑name entries :=
    lookUp_setEntry_of_ne apart _ entries
  constructor
  · rw [after.locate_eq, names.locate_eq, follows.origin,
      walk_singleton standing names.notHereRaw names.notAboveRaw,
      walk_singleton standingAfter names.notHereRaw names.notAboveRaw, entry]
  · intro place located
    rw [names.locate_eq] at located
    obtain ⟨start, -, located⟩ := bind_eq_ok located
    rw [walk_singleton standing names.notHereRaw names.notAboveRaw] at located
    obtain rfl : place = folder ++ [(name : FileName)] := by
      split at located
      · cases located
      · split at located
        · exact (Except.ok.inj located).symm
        · cases located
    rw [find?_append_singleton standing, find?_append_singleton standingAfter, entry]

theorem newPlace_eq (names : disk.Names path folder name) :
    disk.newPlace path = (disk.origin path).bind fun _ =>
      if isLongName name then .error .nameTooLong
      else
        match disk.tree.find? (folder ++ [(name : FileName)]) with
        | some (.folder _) => .error .isDirectory
        | some (.file _) => .ok (folder ++ [(name : FileName)])
        | none => .ok (folder ++ [(name : FileName)]) := by
  obtain ⟨entries, standing⟩ := names.folder
  unfold Disk.newPlace Disk.parent
  cases origin : disk.origin path with
  | error error => rfl
  | ok start =>
      have walked := names.walked
      rw [← origin_eq_ok origin] at walked
      simp only [ok_bind, RawPath.parts_ofText, ← List.map_dropLast, walked, standing,
        List.getLast?_map, names.last, Option.map_some, names.notHereRaw, names.notAboveRaw,
        RawPath.endsInSlash_ofText, names.plain, decide_false, Bool.or_self, Bool.false_eq_true,
        if_false]
      rfl

theorem newPlace_put (names : disk.Names path folder name) {other : FileName} (apart : ↑name ≠ other)
    (free : Free disk.tree folder other) (content : Content) :
    (disk.putContent (folder ++ [other]) content).newPlace path = disk.newPlace path := by
  have follows : Follows (disk.putContent (folder ++ [other]) content) disk :=
    ⟨rfl, keeps_put free content⟩
  obtain ⟨entries, standing⟩ := names.folder
  have standingAfter : (disk.putContent (folder ++ [other]) content).tree.find? folder =
      some (.folder (setEntry other (.file content) entries)) :=
    find?_put_folder standing other (.file content)
  rw [(names.follows follows).newPlace_eq, names.newPlace_eq, follows.origin,
    find?_append_singleton standingAfter, find?_append_singleton standing,
    lookUp_setEntry_of_ne apart]

theorem sameAt_write (names : disk.Names path folder name) {path' name' : String}
    (names' : disk.Names path' folder name') (apart : name ≠ name') {octets : ByteArray} {after : Disk}
    (h : disk.write path' octets = .ok after) : SameAt after disk path := by
  obtain ⟨place, other, opens, rfl⟩ := write_eq_ok h
  obtain ⟨rfl, rfl⟩ := names'.eq_of_opens opens
  exact names.sameAt_put (RawText.ofText_injective.ne apart) opens.free _

end Names

/-- What is written to a path with one ending leaves the path with another ending alone. -/
theorem spares_of_write {disk after : Disk} {path ending other : String} {octets : ByteArray}
    (written : disk.write (Path.withSuffix path ending) octets = .ok after)
    (plain : '/' ∉ ending.toList) (plainOther : '/' ∉ other.toList) {c : Char}
    (last : other.toList.getLast? = some c) (letter : c ≠ '.') (apart : other ≠ ending) :
    SameAt after disk (Path.withSuffix path other) ∧
      after.newPlace (Path.withSuffix path other) = disk.newPlace (Path.withSuffix path other) := by
  obtain ⟨folder, name, opens, rfl⟩ := write_eq_ok written
  obtain ⟨stem, rfl, names⟩ := Names.of_opens opens plain plainOther last letter
  have unlike := RawText.ofText_injective.ne ((Path.withSuffix_injective stem).ne apart)
  exact ⟨names.sameAt_put unlike opens.free _, names.newPlace_put unlike opens.free _⟩

end Disk

end SymbolCorpus
