import SymbolCorpus.Files.Tree
import SymbolCorpus.Text.Octets

/-! # The disk

All files, and the folder that relative paths start from. Every operation finds its file by walking the
parts of a path, and answers with the error of the first thing that is amiss.
-/

namespace SymbolCorpus

/-- All files and the folder that relative paths start from. -/
structure Disk where
  tree : FileTree
  /-- Where relative paths start. -/
  here : Place

namespace Disk

/-- A path that is longer than any file system takes. -/
def isLongPath (path : RawPath) : Bool := 4096 ≤ path.octets.length

/-- The place from which a path starts. A path that no file can have is an error. -/
def origin (disk : Disk) (path : RawPath) : Except FileError Place :=
  if path.octets.contains 0 then .error .invalidPath
  else if path.octets.isEmpty then .error .notFound
  else if isLongPath path then .error .nameTooLong
  else .ok (if path.isAbsolute then [] else disk.here)

/-- The parts of a path, a slash at its end standing for the folder itself. -/
def walkedParts (path : RawPath) : List FileName :=
  if path.endsInSlash then path.parts ++ [("." : FileName)] else path.parts

def locate (disk : Disk) (path : RawPath) : Except FileError Place := do
  let start ← disk.origin path
  disk.tree.walk start (walkedParts path)

/-- What a path names. -/
def entry? (disk : Disk) (path : RawPath) : Option FileTree :=
  match disk.locate path with
  | .ok place => disk.tree.find? place
  | .error _ => none

def isFile (disk : Disk) (path : RawPath) : Bool :=
  match disk.entry? path with
  | some (.file _) => true
  | _ => false

def isFolder (disk : Disk) (path : RawPath) : Bool :=
  match disk.entry? path with
  | some (.folder _) => true
  | _ => false

/-- The path names a folder, or a file that is not empty. -/
def isNonempty (disk : Disk) (path : RawPath) : Bool :=
  match disk.entry? path with
  | some (.file content) => content.isNonempty
  | some (.folder _) => true
  | none => false

/-- The octets of a file. -/
def read (disk : Disk) (path : RawPath) : Except FileError ByteArray := do
  let place ← disk.locate path
  match disk.tree.find? place with
  | some (.file content) => .ok content.bytes
  | some (.folder _) => .error .isDirectory
  | none => .error .notFound

def readText (disk : Disk) (path : RawPath) : Except FileError (List Char) := do
  let octets ← disk.read path
  match Text.ofOctets? octets with
  | some text => .ok text
  | none => .error .invalidText

/-- The folder that holds what a path names, and the last part of the path. -/
def parent (disk : Disk) (path : RawPath) : Except FileError (Place × Option FileName) := do
  let start ← disk.origin path
  let parts := path.parts
  let place ← disk.tree.walk start parts.dropLast
  match disk.tree.find? place with
  | some (.folder _) => .ok (place, parts.getLast?)
  | some (.file _) => .error .notDirectory
  | none => .error .notFound

def newPlace (disk : Disk) (path : RawPath) : Except FileError Place := do
  let (folder, name) ← disk.parent path
  match name with
  | none => .error .isDirectory
  | some name =>
      if name = "." || name = ".." then .error .isDirectory
      else if FileTree.isLongName name then .error .nameTooLong
      else
        match disk.tree.find? (folder ++ [name]) with
        | some (.folder _) => .error .isDirectory
        | some (.file _) =>
            if path.endsInSlash then .error .notDirectory else .ok (folder ++ [name])
        | none => if path.endsInSlash then .error .isDirectory else .ok (folder ++ [name])

def putContent (disk : Disk) (place : Place) (content : Content) : Disk :=
  { disk with tree := disk.tree.put place (.file content) }

/-- The disk after octets were written to a file, which is made or replaced. -/
def write (disk : Disk) (path : RawPath) (octets : ByteArray) : Except FileError Disk := do
  let place ← disk.newPlace path
  pure (disk.putContent place (.octets octets))

/-- The disk after a text was written to a file. -/
def writeText (disk : Disk) (path : RawPath) (text : List Char) : Except FileError Disk :=
  disk.write path (Text.toOctets text)

/-- The disk after texts were written to files one after another, and what went wrong with the first
file that could not be written. The files before it stay written. -/
def writeTexts (disk : Disk) : List (String × List Char) → Disk × Option (String × FileError)
  | [] => (disk, none)
  | (path, text) :: rest =>
      match disk.writeText path text with
      | .ok disk => writeTexts disk rest
      | .error error => (disk, some (path, error))

/-- The disk with a new folder. The parts lead there from a place. -/
def makeFolderAt (disk : Disk) (start : Place) (parts : List FileName) : Except FileError Disk := do
  let place ← disk.tree.walk start parts.dropLast
  match disk.tree.find? place with
  | some (.folder _) =>
      match parts.getLast? with
      | none => .error .alreadyExists
      | some name =>
          if name = "." || name = ".." then .error .alreadyExists
          else if FileTree.isLongName name then .error .nameTooLong
          else if (disk.tree.find? (place ++ [name])).isSome then .error .alreadyExists
          else .ok { disk with tree := disk.tree.put (place ++ [name]) .empty }
  | some (.file _) => .error .notDirectory
  | none => .error .notFound

def isFolderAt (disk : Disk) (start : Place) (parts : List FileName) : Bool :=
  match disk.tree.walk start parts with
  | .ok place =>
      match disk.tree.find? place with
      | some (.folder _) => true
      | _ => false
  | .error _ => false

/-- A folder that is there already is no error. -/
def orExisting (disk : Disk) (start : Place) (parts : List FileName) (error : FileError) :
    Except FileError Disk :=
  if disk.isFolderAt start parts then .ok disk else .error error

/-- The disk with a folder and all folders above it. When a folder above is missing it is made first;
the fuel bounds how many there are. -/
def makeFoldersAt (start : Place) : Nat → Disk → List FileName → Except FileError Disk
  | 0, _, _ => .error .notFound
  | fuel + 1, disk, parts =>
      match disk.makeFolderAt start parts with
      | .ok disk => .ok disk
      | .error .notFound => do
          let named := parts.filter fun part => part ≠ ("." : FileName)
          let disk ← makeFoldersAt start fuel disk named.dropLast
          match disk.makeFolderAt start parts with
          | .ok disk => .ok disk
          | .error error => disk.orExisting start parts error
      | .error error => disk.orExisting start parts error

def makeFolders (disk : Disk) (path : RawPath) : Except FileError Disk :=
  if path.octets.isEmpty then .ok disk
  else do
    let start ← disk.origin path
    let parts := path.parts
    makeFoldersAt start (parts.length + 1) disk parts

/-- The entries of a folder. -/
def entries (disk : Disk) (path : RawPath) : Except FileError (List (FileName × FileTree)) := do
  let place ← disk.locate path
  match disk.tree.find? place with
  | some (.folder entries) => .ok entries
  | some (.file _) => .error .notDirectory
  | none => .error .notFound

/-- The absolute path of what a path names, without folders above and folders themselves. -/
def canonical (disk : Disk) (path : RawPath) : Except FileError String :=
  (disk.locate path).map Path.ofPlace

/-- The absolute path of the folder that relative paths start from. -/
def herePath (disk : Disk) : String := Path.ofPlace disk.here

end Disk

end SymbolCorpus
