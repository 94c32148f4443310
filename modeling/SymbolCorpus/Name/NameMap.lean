import Std.Data.TreeMap
import SymbolCorpus.Address
import SymbolCorpus.Name.Filter
import SymbolCorpus.Name.Signature

/-! # Name maps

A name map gives every function name of a binary its first and last address. It is read by name, in
the order of the names, and kept by first address; of two names for one address the later one stays.
-/

namespace SymbolCorpus

/-- Which names are kept, and in which form. -/
structure NameFilter where
  /-- Leaves out names that say nothing; without it every name is wanted. -/
  blocklist : Option Blocklist
  /-- Reduces signatures to their method names. -/
  methodNames : Bool
  deriving Repr, DecidableEq

namespace NameFilter

/-- The name is wanted. -/
def keeps (filter : NameFilter) (name : List Char) : Bool :=
  match filter.blocklist with
  | some blocklist => blocklist.isMeaningful name && isRequiredName name
  | none => true

/-- The form in which a wanted name is kept; none when it is not wanted or has no method name. -/
def keptForm? (filter : NameFilter) (name : List Char) : Option (List Char) :=
  if !filter.keeps name then none
  else if filter.methodNames && isSignature name then methodName? name
  else some name

end NameFilter

/-- The names of functions by first address. -/
abbrev NameMap := Std.TreeMap Address String

namespace NameMap

/-- The two addresses of a name. -/
def addressPair? : Json → Option (Address × Address)
  | .array [first, last] => do
      let first ← first.asUInt64?
      let last ← last.asUInt64?
      pure (first, last)
  | _ => none

/-- The names of a document with their first addresses, in the order of the names; a name that is
repeated counts once, with the addresses given last. -/
def entries? (value : Json) : Option (List (String × Address)) := do
  let fields ← value.asObject?
  let pairs ← fields.mapM fun (name, value) => (addressPair? value).map fun (first, _) => (name, first)
  pure (Std.TreeMap.ofList pairs : Std.TreeMap String Address).toList

/-- The map of names with first addresses. -/
def ofEntries (filter : NameFilter) (entries : List (String × Address)) : NameMap :=
  entries.foldl (fun map (name, first) =>
    match filter.keptForm? name.toList with
    | some kept => map.insert first (String.ofList kept)
    | none => map) ∅

def ofJson? (filter : NameFilter) (value : Json) : Option NameMap :=
  (entries? value).map (ofEntries filter)

/-- The name of the function that begins at an address. -/
def find? (names : NameMap) (first : Address) : Option String := names.get? first

end NameMap

end SymbolCorpus
