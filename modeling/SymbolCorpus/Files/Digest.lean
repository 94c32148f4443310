import SymbolCorpus.Digest.Sha256
import SymbolCorpus.Files.Disk

/-! # Digests of files -/

namespace SymbolCorpus

/-- Why a file has no digest. -/
inductive DigestError where
  /-- The file could not be opened. -/
  | unopened (path : String) (cause : FileError)
  /-- The file could be opened but not read. -/
  | unreadable (path : String) (cause : FileError)
  deriving Repr, DecidableEq

/-- What is said of an error. -/
def DigestError.message : DigestError → String
  | unopened path _ => "Failed to open binary for hashing: " ++ path
  | unreadable path _ => "Failed to read binary for hashing: " ++ path

/-- The digest of a file in hexadecimal digits. A folder can be opened but not read. -/
def Disk.digest (disk : Disk) (path : String) : Except DigestError String :=
  match disk.read path with
  | .ok octets => .ok (Sha256.hexDigest octets)
  | .error .isDirectory => .error (.unreadable path .isDirectory)
  | .error error => .error (.unopened path error)

end SymbolCorpus
