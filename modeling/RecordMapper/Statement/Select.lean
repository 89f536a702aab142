import RecordMapper.Statement.Condition

/-!
# Statements that read rows

* `Select`, `Select.ofQuery`: the rows of a query, and those of their columns that it needs.
* `Select.byKey`: the rows in which a column has a given text.
-/

namespace RecordMapper

inductive Projection where
  | all
  | names (list : List String)
deriving DecidableEq, Repr

def Projection.render : Projection → String
  | .all => "*"
  | .names list => ", ".intercalate (list.map Dialect.identifier)

structure Select where
  table : String
  projection : Projection
  condition : Option Condition := none
  order : List OrderEntry := []
  limit : Option UInt64 := none
  offset : Option UInt64 := none
deriving DecidableEq, Repr

namespace Select

/-- The columns that a query reads: all of them, or those it names in the order of the schema, and
with them the instance key and the columns of the relations to resolve. -/
def projectionOf (schema : Schema) (query : Query) : Projection :=
  if query.columns.isEmpty then .all
  else
    .names
      ((schema.columns.map (·.name)).filter (· ∈ query.columns) ++ instanceKeyColumn ::
        (schema.ownedRelations.map (·.key)).filter (· ∈ query.relations))

/-- The reading of a query. Names are checked in the order of the columns to read, the relations to
resolve, the condition and the order of rows. -/
def ofQuery (schema : Schema) (query : Query) : Except Fault Select := do
  query.columns.names.forM fun name => discard (schema.requireColumn name)
  query.relations.names.forM fun key => discard (schema.requireRelation key)
  let condition ← query.condition schema
  query.order.forM fun entry => discard (schema.requireColumn entry.column)
  return {
    table := schema.table
    projection := projectionOf schema query
    condition
    order := query.order
    limit := query.limit
    offset := query.offset }

/-- The rows of a table in which a column has a text, with all their columns. -/
def byKey (table column key : String) : Select where
  table
  projection := .all
  condition := some (.compare column .equal (.text key))

def orderClause : List OrderEntry → String
  | [] => ""
  | entries =>
    " ORDER BY " ++
      ", ".intercalate (entries.map fun entry => entry.column ++ " " ++ entry.direction.keyword)

/-- The text of the part of the rows to read. -/
def pageClause (dialect : Dialect) : Option UInt64 → Option UInt64 → String
  | none, none => ""
  | some limit, none => " LIMIT " ++ Decimal.ofNat limit.toNat
  | some limit, some offset =>
    " LIMIT " ++ Decimal.ofNat limit.toNat ++ " OFFSET " ++ Decimal.ofNat offset.toNat
  | none, some offset =>
    " LIMIT " ++ dialect.unboundedLimit ++ " OFFSET " ++ Decimal.ofNat offset.toNat

def render (dialect : Dialect) (select : Select) : String :=
  "SELECT " ++ select.projection.render ++ " FROM " ++ Dialect.identifier select.table ++
    Condition.clause dialect select.condition ++ orderClause select.order ++
    pageClause dialect select.limit select.offset

end Select

end RecordMapper
