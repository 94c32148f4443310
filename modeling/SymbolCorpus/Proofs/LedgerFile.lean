import SymbolCorpus.Project.Context
import SymbolCorpus.Proofs.Writes

/-! # Ledgers on the disk

A ledger that was put at a place is found there. Writing a file or making a folder brings no ledger
into being, so a ledger that is found after such a change was there before it, unchanged.
-/

namespace SymbolCorpus

namespace FileTree

theorem find?_put_of_find? {tree found : FileTree} {place : Place} (h : tree.find? place = some found)
    (new : FileTree) : (tree.put place new).find? place = some new := by
  rcases List.eq_nil_or_concat place with rfl | ⟨folder, name, rfl⟩
  · cases tree <;> exact find?_nil new
  · rw [List.concat_eq_append] at h ⊢
    obtain ⟨entries, standing⟩ := exists_folder_of_find? h
    exact find?_put_self standing name new

end FileTree

open FileTree

namespace Disk

variable {disk old new : Disk} {path : String} {place : Place} {ledger : Ledger}

/-- A ledger is at the place, and not only what is taken for a fresh one. -/
def HasLedger (disk : Disk) (place : Place) (ledger : Ledger) : Prop :=
  disk.tree.find? place = some (.file (.ledger ledger))

theorem HasLedger.ledgerAt (h : disk.HasLedger place ledger) : disk.ledgerAt place = .ok ledger := by
  unfold HasLedger at h
  simp [Disk.ledgerAt, h]

theorem HasLedger.unique {other : Ledger} (h : disk.HasLedger place ledger)
    (h' : disk.HasLedger place other) : ledger = other := by
  cases h.symm.trans h'
  rfl

theorem HasLedger.putLedger_self (h : disk.HasLedger place ledger) :
    disk.putLedger place ledger = disk := by
  rw [putLedger, putContent, put_of_find? h]

theorem putLedger_putLedger (disk : Disk) (place : Place) (first second : Ledger) :
    (disk.putLedger place first).putLedger place second = disk.putLedger place second := by
  rw [putLedger, putLedger, putContent, putContent, put_put]
  rfl

theorem HasLedger.put (h : disk.HasLedger place ledger) (now : Ledger) :
    (disk.putLedger place now).HasLedger place now :=
  find?_put_of_find? h _

/-- Only a fresh ledger need not be there. -/
theorem hasLedger_of_ledgerAt (h : disk.ledgerAt place = .ok ledger) (opened : ledger ≠ .fresh) :
    disk.HasLedger place ledger := by
  unfold Disk.ledgerAt at h
  split at h
  · cases h
    exact absurd rfl opened
  · next found =>
      cases h
      exact found
  · split at h
    · cases h
      exact absurd rfl opened
    · cases h
  · cases h

theorem HasLedger.free {folder : Place} {name : FileName}
    (h : disk.HasLedger (folder ++ [name]) ledger) :
    Free disk.tree folder name where
  folder := exists_folder_of_find? h
  noFolder := by
    intro found present
    cases h.symm.trans present
    rfl

theorem ofOctets?_ledger (ledger : Ledger) : Text.ofOctets? (Content.ledger ledger).bytes = none := by
  change Text.ofOctets? ⟨#[0xff]⟩ = none
  decide +kernel

/-- A ledger is no text, so what is read as one is left alone when the ledger is replaced. -/
theorem HasLedger.readText_putLedger {text : List Char} (h : disk.HasLedger place ledger)
    (read : disk.readText path = .ok text) (now : Ledger) :
    (disk.putLedger place now).readText path = .ok text := by
  obtain ⟨octets, readOctets, decoded⟩ := bind_eq_ok read
  obtain ⟨goal, located, found⟩ := bind_eq_ok readOctets
  split at found
  · next content present =>
      cases found
      have elsewhere : goal ≠ place := by
        rintro rfl
        cases h.symm.trans present
        rw [ofOctets?_ledger] at decoded
        cases decoded
      rcases List.eq_nil_or_concat place with rfl | ⟨folder, name, rfl⟩
      · obtain ⟨first, rest, rfl⟩ := List.exists_cons_of_ne_nil elsewhere
        obtain ⟨entries, inner, root, -, -⟩ := find?_cons_eq_some present
        rw [HasLedger, find?_nil, root] at h
        cases h
      · rw [List.concat_eq_append] at h elsewhere ⊢
        have follows : Follows (disk.putLedger (folder ++ [name]) now) disk :=
          ⟨rfl, keeps_put h.free _⟩
        obtain ⟨after, presentNow, -, kept⟩ := find?_put_file h.free (.ledger now) present
        cases kept elsewhere rfl
        have readNow : (disk.putLedger (folder ++ [name]) now).read path = .ok content.bytes := by
          rw [Disk.read, follows.locate located, ok_bind, putLedger, putContent, presentNow]
        rw [Disk.readText, readNow]
        exact decoded
  · cases found
  · cases found

theorem ledgerPlace_eq_ok : disk.ledgerPlace path = .ok place ↔
    ∃ start folder name entries, disk.origin path = .ok start ∧
      Path.simplified (start ++ RawPath.parts path) = place ∧ place = folder ++ [name] ∧
      disk.tree.find? folder = some (.folder entries) ∧ isLongName name = false := by
  constructor
  · intro h
    unfold ledgerPlace at h
    split at h
    · cases h
    · next start origin =>
        dsimp only at h
        split at h
        · next entries name standing last =>
            split at h
            · cases h
            · next short =>
                cases h
                obtain ⟨folder, whole⟩ := List.getLast?_eq_some_iff.mp last
                rw [whole, List.dropLast_concat] at standing
                exact ⟨start, folder, name, entries, origin, rfl, whole, standing, by simpa using short⟩
        · cases h
  · rintro ⟨start, folder, name, entries, origin, whole, rfl, standing, short⟩
    simp [ledgerPlace, origin, whole, standing, short]

theorem ledgerPlace_putLedger (h : disk.ledgerPlace path = .ok place) (now : Ledger) :
    (disk.putLedger place now).ledgerPlace path = .ok place := by
  obtain ⟨start, folder, name, entries, origin, whole, rfl, standing, short⟩ := ledgerPlace_eq_ok.mp h
  have standingNow := find?_put_folder standing name (.file (.ledger now))
  exact ledgerPlace_eq_ok.mpr
    ⟨start, folder, name, _, origin, whole, rfl, standingNow, short⟩

theorem hasLedger_putLedger (h : disk.ledgerPlace path = .ok place) (now : Ledger) :
    (disk.putLedger place now).HasLedger place now := by
  obtain ⟨-, folder, name, entries, -, -, rfl, standing, -⟩ := ledgerPlace_eq_ok.mp h
  exact find?_put_self standing name (.file (.ledger now))

/-! ## Writing files -/

theorem HasLedger.of_shapeAt? (h : new.HasLedger place ledger)
    (same : new.tree.shapeAt? place = old.tree.shapeAt? place) : old.HasLedger place ledger := by
  unfold HasLedger at h
  unfold shapeAt? at same
  rw [h] at same
  obtain ⟨found, present, shape⟩ := Option.map_eq_some_iff.mp same.symm
  rw [HasLedger, present, eq_file_of_shape shape]

theorem HasLedger.of_write {octets : ByteArray} (h : new.HasLedger place ledger)
    (written : old.write path octets = .ok new) : old.HasLedger place ledger := by
  obtain ⟨folder, name, opens, rfl⟩ := write_eq_ok written
  apply h.of_shapeAt?
  apply (opens.sameElsewhere _).elsewhere
  rintro rfl
  have octetsThere := (opens.holds octets).file
  unfold HasLedger at h
  rw [octetsThere] at h
  cases h

theorem HasLedger.of_writeTexts {texts : List (String × List Char)} (h : new.HasLedger place ledger)
    (run : old.writeTexts texts = (new, none)) : old.HasLedger place ledger := by
  induction texts generalizing old with
  | nil =>
      cases run
      exact h
  | cons text rest ih =>
      obtain ⟨next, written, run⟩ := writeTexts_cons run
      exact (ih run).of_write written

/-! ## New folders -/

theorem HasLedger.of_makeFolderAt {start : Place} {parts : List FileName}
    (h : new.HasLedger place ledger) (made : old.makeFolderAt start parts = .ok new) :
    old.HasLedger place ledger := by
  obtain ⟨folder, walked, made⟩ := bind_eq_ok made
  split at made
  · next entries standing =>
      split at made
      · cases made
      · next name named =>
          split at made
          · cases made
          · split at made
            · cases made
            · split at made
              · cases made
              · next absent =>
                  cases made
                  have free : Free old.tree folder name := by
                    refine ⟨⟨entries, standing⟩, ?_⟩
                    intro found present
                    simp [present] at absent
                  apply h.of_shapeAt?
                  apply shapeAt?_put free
                  · intro first rest
                    rfl
                  · rintro rfl
                    have folderThere := find?_put_self standing name FileTree.empty
                    unfold HasLedger at h
                    rw [folderThere] at h
                    cases h
  · cases made
  · cases made

theorem orExisting_eq_ok {start : Place} {parts : List FileName} {error : FileError}
    (h : old.orExisting start parts error = .ok new) : new = old := by
  unfold orExisting at h
  split at h
  · cases h
    rfl
  · cases h

theorem HasLedger.of_makeFoldersAt {start : Place} {fuel : Nat} {parts : List FileName}
    (h : new.HasLedger place ledger) (made : makeFoldersAt start fuel old parts = .ok new) :
    old.HasLedger place ledger := by
  induction fuel generalizing parts new with
  | zero => cases made
  | succ fuel ih =>
      unfold makeFoldersAt at made
      split at made
      · next last =>
          cases made
          exact h.of_makeFolderAt last
      · obtain ⟨above, outer, made⟩ := bind_eq_ok made
        split at made
        · next last =>
            cases made
            exact ih (h.of_makeFolderAt last) outer
        · rw [orExisting_eq_ok made] at h
          exact ih h outer
      · rw [orExisting_eq_ok made] at h
        exact h

theorem HasLedger.of_makeFolders (h : new.HasLedger place ledger)
    (made : old.makeFolders path = .ok new) : old.HasLedger place ledger := by
  unfold makeFolders at made
  split at made
  · cases made
    exact h
  · obtain ⟨start, -, made⟩ := bind_eq_ok made
    exact h.of_makeFoldersAt made

end Disk

end SymbolCorpus
