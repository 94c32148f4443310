import SymbolCorpus.Files.Error
import SymbolCorpus.Files.Path
import SymbolCorpus.Ledger.Basic

/-! # Trees of files

A tree is a file or a folder of named trees. A place in a tree is the list of names that leads to it
from the root.
-/

namespace SymbolCorpus

/-- What a file holds. -/
inductive Content where
  | octets (value : ByteArray)
  /-- A ledger, whose octets nobody looks at. -/
  | ledger (value : Ledger)

/-- The octets of a content. Those of a ledger are no text. -/
def Content.bytes : Content → ByteArray
  | octets value => value
  | ledger _ => ⟨#[0xff]⟩

def Content.isNonempty : Content → Bool
  | octets value => value.size ≠ 0
  | ledger _ => true

/-- A file or a folder. -/
inductive FileTree where
  | file (content : Content)
  /-- A folder of named trees. -/
  | folder (entries : List (FileName × FileTree))

namespace FileTree

/-- The tree with nothing in it. -/
def empty : FileTree := .folder []

/-- The tree of a name in a folder's entries. -/
def lookUp (name : FileName) (entries : List (FileName × FileTree)) : Option FileTree :=
  (entries.find? (·.1 == name)).map (·.2)

def find? : FileTree → Place → Option FileTree
  | tree, [] => some tree
  | .file _, _ :: _ => none
  | .folder entries, name :: rest =>
      match lookUp name entries with
      | some tree => tree.find? rest
      | none => none

/-- The entries with one of them replaced, or added at the end. -/
def setEntry (name : FileName) (tree : FileTree) :
    List (FileName × FileTree) → List (FileName × FileTree)
  | [] => [(name, tree)]
  | (other, old) :: entries =>
      if other = name then (name, tree) :: entries else (other, old) :: setEntry name tree entries

/-- The tree with another one put at a place. Folders on the way must be there; else nothing
changes. -/
def put : FileTree → Place → FileTree → FileTree
  | _, [], new => new
  | .file content, _ :: _, _ => .file content
  | .folder entries, [name], new => .folder (setEntry name new entries)
  | .folder entries, name :: next :: rest, new =>
      match lookUp name entries with
      | some tree => .folder (setEntry name (tree.put (next :: rest) new) entries)
      | none => .folder entries

mutual

/-- The number of folders in a tree, the tree itself among them. -/
def folderCount : FileTree → Nat
  | .file _ => 0
  | .folder entries => entryCount entries + 1

/-- The number of folders in the entries of a folder. -/
def entryCount : List (FileName × FileTree) → Nat
  | [] => 0
  | (_, tree) :: entries => folderCount tree + entryCount entries

end

/-- A file name that no file system takes. -/
def isLongName (name : FileName) : Bool := 255 < name.octets.length

/-- The place that parts of a path lead to from a place. Folders above and folders themselves are
resolved in the tree, so every folder on the way must be there. -/
def walk (tree : FileTree) (place : Place) : List FileName → Except FileError Place
  | [] => .ok place
  | part :: rest =>
      match tree.find? place with
      | none => .error .notFound
      | some (.file _) => .error .notDirectory
      | some (.folder entries) =>
          if part = "." then tree.walk place rest
          else if part = ".." then tree.walk place.dropLast rest
          else if isLongName part then .error .nameTooLong
          else
            match lookUp part entries with
            | none => .error .notFound
            | some _ => tree.walk (place ++ [part]) rest

end FileTree

end SymbolCorpus
