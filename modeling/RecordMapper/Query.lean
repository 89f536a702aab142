import RecordMapper.NameSet
import RecordMapper.Predicate

/-!
# Queries

* `Query`: which rows, in which order, which part of them, and which of their columns and relations.
* `Query.Step`, `Query.ofSteps`: a query as the sequence of requests that led to it.
-/

namespace RecordMapper

inductive Direction where
  | ascending
  | descending
deriving DecidableEq, Repr

def Direction.keyword : Direction → String
  | .ascending => "ASC"
  | .descending => "DESC"

structure OrderEntry where
  column : String
  direction : Direction
deriving DecidableEq, Repr

/-- What to ask of a table. -/
structure Query where
  /-- The condition on rows, if there is one. -/
  predicate : Option Predicate := none
  /-- What rows are ordered by, the first entry first. -/
  order : List OrderEntry := []
  limit : Option UInt64 := none
  offset : Option UInt64 := none
  /-- The columns to read; all of them if the set is empty. -/
  columns : NameSet := .empty
  relations : NameSet := .empty
  /-- Whether a change of all rows is intended. -/
  unconditional : Bool := false
deriving DecidableEq, Repr

namespace Query

/-! ## Requests -/

/-- A request added to a query. -/
inductive Step where
  | filter (predicate : Predicate)
  | orderBy (entry : OrderEntry)
  | limit (count : UInt64)
  | offset (count : UInt64)
  | select (columns : List String)
  | resolve (relations : List String)
  | confirm
deriving DecidableEq, Repr

/-- Adds a request. Conditions add up under AND, order entries and names accumulate, and of several
limits or offsets the last one counts. -/
def apply (query : Query) : Step → Query
  | .filter predicate => { query with predicate := some (.conjoin query.predicate predicate) }
  | .orderBy entry => { query with order := query.order ++ [entry] }
  | .limit count => { query with limit := some count }
  | .offset count => { query with offset := some count }
  | .select columns => { query with columns := query.columns.insertAll columns }
  | .resolve relations => { query with relations := query.relations.insertAll relations }
  | .confirm => { query with unconditional := true }

def ofSteps (steps : List Step) : Query :=
  steps.foldl apply {}

/-- The query for the rows in which a column has a value. -/
def whereEqual (column : String) (value : Value) : Query :=
  { predicate := some (.compare { column, operator := Operator.equal.token, value }) }

end Query

end RecordMapper
