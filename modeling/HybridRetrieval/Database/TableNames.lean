import HybridRetrieval.Error
/-!
# Table names

A logical table name gives the names of two tables, the data rows and the lexemes, and of an index
for each.  Names become part of statements, so only ASCII letters, digits and underscores are
accepted; letters are lower-cased.
-/

namespace HybridRetrieval

/-- The characters of table names. -/
def isTableNameChar (c : Char) : Bool := c.isAlphanum || c == '_'

/-- The tables of a logical name. -/
structure TableNames where
  data : String
  lexemes : String
deriving DecidableEq, Repr

namespace TableNames

/-- The tables of a logical name that is accepted. -/
def ofName (name : String) : Except Error TableNames :=
  if name.toList ≠ [] ∧ name.toList.all isTableNameChar then
    let data := "data_" ++ String.ofList (name.toList.map Char.toLower)
    .ok ⟨data, data ++ "_lexemes"⟩
  else .error (.invalidTableName name)

/-- The index of data rows by source document. -/
def documentIndex (names : TableNames) : String := "idx_" ++ names.data ++ "_ref_doc"

/-- The index of lexeme rows by lexeme. -/
def lexemeIndex (names : TableNames) : String := "idx_" ++ names.lexemes ++ "_lexeme"

end TableNames

end HybridRetrieval
