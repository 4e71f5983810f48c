import HybridRetrieval.Filter.Basic
/-!
# The size of a search

The database answers a search with one statement, and it prepares a statement only if no more than
32766 values are bound in it and no condition in it is nested deeper than 1000.  Every lexeme that
is searched for binds a value, and every filter binds two and is conjoined to the condition, which
makes the condition deeper by one.
-/

namespace HybridRetrieval

/-- What the database limits in a statement. -/
structure StatementSize where
  /-- How many values are bound. -/
  values : Nat
  /-- How deep the condition is nested. -/
  depth : Nat
deriving DecidableEq, Repr

namespace StatementSize

/-- How many values a statement may bind. -/
def maxValues : Nat := 32766

/-- How deep a condition may be nested. -/
def maxDepth : Nat := 1000

/-- The depth of a condition that compares columns or lists placeholders for one: a column is
written with its table and is two deep. -/
def comparisonDepth : Nat := 3

/-- The depth of the term of a filter, in which the column is the argument of a function. -/
def filterDepth : Nat := 4

/-- The depth of a conjunction of conditions. -/
def conjoin (left right : Nat) : Nat := max left right + 1

/-- The depth of a condition once the terms of filters are conjoined to it one by one. -/
def withFilters (first : Nat) (filters : List Filter) : Nat :=
  filters.foldl (fun depth _ => conjoin depth filterDepth) first

/-- The size of a dense search.  The embedding and the limit are bound, and the condition starts
with an equation of two numbers. -/
def dense (filters : List Filter) : StatementSize :=
  ⟨2 * filters.length + 2, withFilters 2 filters⟩

/-- The size of a sparse search.  The lexemes and the limit are bound.  The condition on the lexemes
and the filters is conjoined to the one that joins the tables. -/
def sparse (terms : List String) (filters : List Filter) : StatementSize :=
  ⟨terms.length + 2 * filters.length + 1,
    conjoin comparisonDepth (withFilters comparisonDepth filters)⟩

/-- Whether the database prepares a statement. -/
def Accepted (size : StatementSize) : Prop := size.values ≤ maxValues ∧ size.depth ≤ maxDepth

instance (size : StatementSize) : Decidable size.Accepted :=
  inferInstanceAs (Decidable (_ ∧ _))

/-- A statement that is not prepared fails. -/
def prepare (size : StatementSize) : Except Error Unit :=
  if size.Accepted then .ok () else .error .storage

end StatementSize

end HybridRetrieval
