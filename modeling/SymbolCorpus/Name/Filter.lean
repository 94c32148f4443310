import SymbolCorpus.Text.Cut

/-! # Which names are wanted

A name says nothing about its function when a compiler or a tool made it up. Such names are told by
how they begin: by an entry of a blocklist, or by one of three fixed beginnings.
-/

namespace SymbolCorpus

/-- Beginnings of names that say nothing. -/
structure Blocklist where
  /-- The beginnings. None is empty. -/
  entries : List (List Char)
  deriving Repr, DecidableEq

namespace Blocklist

/-- No entries. -/
def empty : Blocklist := ⟨[]⟩

/-- The entries of a list, without white space around them; empty ones are left out. -/
def ofEntries (entries : List (List Char)) : Blocklist :=
  ⟨(entries.map Text.trim).filter (!·.isEmpty)⟩

/-- The entries of a text, one a line. -/
def ofText (text : List Char) : Blocklist := ofEntries (Text.lines text)

def size (blocklist : Blocklist) : Nat := blocklist.entries.length

/-- No entry begins the name. -/
def isMeaningful (blocklist : Blocklist) (name : List Char) : Bool :=
  !blocklist.entries.any (·.isPrefixOf name)

end Blocklist

/-- Beginnings of names that were made up, are mangled, or stand in brackets. -/
def unwantedBeginnings : List (List Char) := ["sub_".toList, "_ZN".toList, "_[".toList]

def isRequiredName (name : List Char) : Bool := !unwantedBeginnings.any (·.isPrefixOf name)

end SymbolCorpus
