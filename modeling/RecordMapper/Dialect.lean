import RecordMapper.Schema
import RecordMapper.Text.Quoted

/-!
# Dialects

* `Dialect`: the two languages in which statements are written.
* `Dialect.columnType`, `Dialect.keyType`, `Dialect.unboundedLimit`, `Dialect.defaultValues`: the
  clauses in which they differ.
* `Dialect.literal`, `Dialect.identifier`: how values and names are written.
-/

namespace RecordMapper

/-- The languages of the two kinds of stores. -/
inductive Dialect where
  | mariadb
  | sqlite
deriving DecidableEq, Repr

instance : Inhabited Dialect := ⟨.sqlite⟩

namespace Dialect

def name : Dialect → String
  | .mariadb => "mariadb"
  | .sqlite => "sqlite"

/-- The type of a column of the given number of characters. -/
def varchar (length : Nat) : String :=
  s!"VARCHAR({Decimal.ofNat length})"

/-- The type of a column. That of the primary column states its constraints too. -/
def columnType : Dialect → ColumnKind → String
  | .mariadb, .primary => "INT UNSIGNED AUTO_INCREMENT PRIMARY KEY"
  | .sqlite, .primary => "INTEGER PRIMARY KEY AUTOINCREMENT"
  | _, .int32 => "INT"
  | .mariadb, .uint32 => "INT UNSIGNED"
  | .sqlite, .uint32 => "INTEGER"
  | _, .varchar maxLength => varchar maxLength.toNat

def keyType (_ : Dialect) : String :=
  varchar instanceKeyLength

/-- The limit that stands for none, where an offset asks for a limit before it. -/
def unboundedLimit : Dialect → String
  | .mariadb => "18446744073709551615"
  | .sqlite => "-1"

/-- What an insertion says in place of names and values when it has none. -/
def defaultValues : Dialect → String
  | .mariadb => "() VALUES ()"
  | .sqlite => "DEFAULT VALUES"

/-! ## Names and values -/

/-- How a dialect writes text. -/
def quoteRule : Dialect → Text.QuoteRule
  | .mariadb => { quote := '"', escape := some '\\' }
  | .sqlite => { quote := '\'', escape := none }

def quoteText (dialect : Dialect) (text : String) : String :=
  String.ofList (dialect.quoteRule.write text.toList)

def literal (dialect : Dialect) : Literal → String
  | .null => "NULL"
  | .integer number => Decimal.ofInt number
  | .text content => dialect.quoteText content

/-- A name as it stands in a statement, in either dialect. A name must not hold a backtick. -/
def identifier (name : String) : String :=
  "`" ++ name ++ "`"

end Dialect

end RecordMapper
