import SymbolCorpus.Text.Cut
import SymbolCorpus.Text.Raw

/-! # Paths

A path is a text whose parts are separated by slashes. Joining and deriving paths works on the text
alone and keeps it as it is: nothing is simplified. The paths a program is given are texts, but names
that were found in folders need not be, so files are reached by raw paths.
-/

namespace SymbolCorpus

/-- The name of a file or folder. -/
abbrev FileName := RawText

/-- The names that lead to a file or folder from the root of all files. -/
abbrev Place := List FileName

/-- A path that need not be a text. -/
abbrev RawPath := RawText

namespace RawPath

/-- The octet of a slash. -/
def slash : UInt8 := 0x2f

/-- The path starts from the root of all files. -/
def isAbsolute (path : RawPath) : Bool := path.octets.head? == some slash

def endsInSlash (path : RawPath) : Bool := path.octets.getLast? == some slash

/-- The parts between slashes, without empty ones. -/
def parts (path : RawPath) : List FileName :=
  ((Text.splitOn slash path.octets).filter (!·.isEmpty)).map RawText.mk

/-- The path of what a folder lists under a name. -/
def child (folder : RawPath) (name : FileName) : RawPath :=
  if folder.octets.isEmpty || folder.endsInSlash then ⟨folder.octets ++ name.octets⟩
  else ⟨folder.octets ++ slash :: name.octets⟩

end RawPath

namespace Path

/-- The path starts from the root of all files. -/
def isAbsolute (path : String) : Bool := path.toList.head? == some '/'

def endsInSlash (path : String) : Bool := path.toList.getLast? == some '/'

/-- A path taken from a base; an absolute path is taken as it is. -/
def join (base path : String) : String :=
  if isAbsolute path then path
  else if base.isEmpty || endsInSlash base then base ++ path
  else base ++ "/" ++ path

/-- The parts between slashes, without empty ones. -/
def parts (path : String) : List String :=
  ((Text.splitOn '/' path.toList).filter (!·.isEmpty)).map String.ofList

/-- The last part of the path, parts that mean the folder itself passed over. A path to a folder above
has none. -/
def fileName? (path : String) : Option String :=
  match ((parts path).filter (· ≠ ".")).getLast? with
  | some ".." => none
  | name => name

/-- What follows the last point of the file name, unless the name begins with that point. -/
def extension? (path : String) : Option String := do
  let name ← fileName? path
  let (stem, extension) ← Text.cutAtLast ['.'] name.toList
  if stem.isEmpty then none else some (String.ofList extension)

/-- The path with a further ending after a point. -/
def withSuffix (path suffix : String) : String := path ++ "." ++ suffix

/-- The parts of a path with folders above taken back one by one and folders themselves passed over,
without a look at any file. -/
def simplified (path : List FileName) : Place :=
  path.foldl (fun (place : Place) (part : FileName) =>
    if part = "." then place else if part = ".." then place.dropLast else place ++ [part]) []

def ofPlace (place : Place) : String := "/" ++ "/".intercalate (place.map RawText.shown)

/-- The path is the folder itself, written in any way. -/
def isHere (path : String) : Bool :=
  !isAbsolute path && !(parts path).isEmpty && (parts path).all (· = ".")

end Path

end SymbolCorpus
