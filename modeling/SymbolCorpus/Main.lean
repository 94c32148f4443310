import SymbolCorpus.Command.Reach
import SymbolCorpus.Command.Run
import SymbolCorpus.Ledger.Document
import SymbolCorpus.Timestamp

/-! # The program

The outer layer: it brings the files that a request reaches onto a disk, runs the request in a session
on that disk, and stores what the session changed. Nothing is decided here.
-/

namespace SymbolCorpus.Main

open Command

/-! ## Bringing files -/

/-- The disk with what stands at the end of some parts of an absolute path, if it is there. A folder
comes without what is in it. -/
def bringParts (disk : Disk) (parts : List FileName) : IO Disk := do
  let place := Path.simplified parts
  let path := Path.ofPlace parts
  match disk.tree.find? place with
  | some (.folder _) => return disk
  | _ =>
      try
        let real ← IO.FS.realPath path
        if ← real.isDir then return { disk with tree := disk.tree.put place .empty }
        else if ← real.pathExists then
          return disk.putContent place (.octets (← IO.FS.readBinFile real))
        else return disk
      catch _ => return disk

/-- The disk with what a path names and the folders on the way. -/
def bring (disk : Disk) (path : String) : IO Disk :=
  let parts := RawPath.parts (Path.join disk.herePath path)
  (List.range (parts.length + 1)).foldlM (fun disk count => bringParts disk (parts.take count)) disk

/-- The disk with all that is in a folder. -/
partial def bringAll (disk : Disk) (path : String) : IO Disk := do
  let disk ← bring disk path
  if !disk.isFolder path then return disk
  let folder ← IO.FS.realPath (Path.join disk.herePath path)
  let entries ← folder.readDir
  entries.foldlM (fun disk entry => bringAll disk (Path.join path entry.fileName)) disk

/-- The disk with a file taken for a ledger, if it holds one. -/
def bringLedger (disk : Disk) (path : String) : IO Disk := do
  let disk ← bring disk path
  match disk.ledgerPlace path with
  | .error _ => return disk
  | .ok place =>
      match disk.tree.find? place with
      | some (.file (.octets octets)) =>
          return ((Ledger.ofOctets? octets).map (disk.putLedger place)).getD disk
      | _ => return disk

/-- The disk with the files that a request reaches. -/
def bringRequest (disk : Disk) (request : Request) : IO Disk := do
  let disk ← bring disk request.root
  let layout : Layout := ⟨rootPath disk request.root⟩
  let disk ← (projectPaths layout ++ request.paths layout).foldlM bring disk
  let disk ← (request.folders layout).foldlM bringAll disk
  let config := (disk.loadConfig layout).toOption
  let ledgerPath := (config.map fun config => layout.resolve config.ledgerPath).getD layout.ledgerFile
  let disk ← bringLedger disk ledgerPath
  let disk ← bringLedger disk layout.ledgerFile
  let ofFile := match request with
    | .segment _ config _ _ => config
    | .tokenize request => request.config
    | _ => none
  let (settings, _) :=
    (resolveSettings request.root ofFile).run (Session.start disk "" .empty)
  match settings with
  | .ok (root, settings) => (settingsPaths root settings).foldlM bring disk
  | .error _ => return disk

/-! ## Storing files -/

/-- The octets of a content in the file system. -/
def storedOctets : Content → ByteArray
  | .octets value => value
  | .ledger ledger => ledger.toOctets

/-- Stores what has changed from one tree to another one at a path. -/
partial def store (path : String) (before : Option FileTree) (after : FileTree) : IO Unit :=
  match after with
  | .file content => do
      let octets := storedOctets content
      let isOld := match before with
        | some (.file old) => storedOctets old == octets
        | _ => false
      if !isOld then IO.FS.writeBinFile path octets
  | .folder entries => do
      let old := match before with
        | some (.folder old) => some old
        | _ => none
      if old.isNone then IO.FS.createDirAll path
      for (name, tree) in entries do
        store (path ++ "/" ++ name.shown) (old.bind (FileTree.lookUp name)) tree

/-! ## Running -/

/-- The time, which is that of a file made just now. -/
def currentTime : IO Timestamp := do
  let (_, path) ← IO.FS.createTempFile
  let metadata ← path.metadata
  IO.FS.removeFile path
  return ⟨metadata.modified.sec, metadata.modified.nsec.toNat⟩

/-- All octets of a stream. -/
partial def readAll (stream : IO.FS.Stream) (before : ByteArray) : IO ByteArray := do
  let octets ← stream.read 65536
  if octets.isEmpty then return before else readAll stream (before ++ octets)

/-- The octets of standard input, if a request reads them. -/
def inputOf (request : Request) : IO ByteArray := do
  match request with
  | .tokenize request => if request.file = "-" then readAll (← IO.getStdin) .empty else return .empty
  | _ => return .empty

/-- The disk of the file system with nothing on it but where relative paths start. -/
def startDisk : IO Disk := do
  let here ← IO.currentDir
  bring ⟨.empty, RawPath.parts here.toString⟩ "."

/-- The session of a command line. -/
def sessionOf (arguments : List String) : IO Session := do
  let disk ← startDisk
  match Request.ofArguments arguments with
  | .error _ => return .start disk "" .empty
  | .ok request =>
      let disk ← bringRequest disk request
      return .start disk (← currentTime).toText (← inputOf request)

/-- What is told on standard error about an ending. -/
def complaint? : Ending → Option String
  | .done => none
  | .failed error => some ("Error: " ++ error.message)
  | .misused error => some ("error: " ++ error.message)

/-- Runs a command line and answers its exit code. -/
def run (arguments : List String) : IO UInt32 := do
  let before ← sessionOf arguments
  let (ending, after) := runArguments arguments before
  store "" (some before.disk.tree) after.disk.tree
  (← IO.getStdout).putStr after.output
  let notes := after.notes.toList ++ (complaint? ending).toList
  notes.forM fun note => do (← IO.getStderr).putStrLn note
  return UInt32.ofNat ending.exitCode

end SymbolCorpus.Main

/-- The program. -/
def main (arguments : List String) : IO UInt32 := SymbolCorpus.Main.run arguments
