/-! # Texts as keys

Texts are kept in hash tables. A text has the hash of the string of its characters.
-/

namespace SymbolCorpus.Text

/-- The hash of a text is that of its string. -/
instance hashText : Hashable (List Char) := ⟨fun text => hash (String.ofList text)⟩

end SymbolCorpus.Text
