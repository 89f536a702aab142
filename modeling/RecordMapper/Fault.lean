import RecordMapper.Schema

/-!
# Faults

* `TextFault`: why a stored text is no value of a column.
* `Fault`: why an operation fails, one constructor for each cause.
* `Fault.kind`, `Fault.message`: the kind of a fault and its full text.
-/

namespace RecordMapper

/-! ## Kinds -/

/-- The kinds of faults. -/
inductive FaultKind where
  /-- The caller asked for something that cannot be. -/
  | invalidArgument
  /-- Something went wrong on the way. -/
  | runtime
  /-- The store refused. -/
  | store
deriving DecidableEq, Repr

namespace FaultKind

/-- The label of a kind. -/
def label : FaultKind → String
  | .invalidArgument => "invalid_argument"
  | .runtime => "runtime_error"
  | .store => "store_error"

/-- What the text of a fault of the kind starts with. -/
def heading : FaultKind → String
  | .invalidArgument => "invalid argument: "
  | .runtime => "runtime error: "
  | .store => "store error: "

end FaultKind

/-! ## Causes -/

/-- Why a stored text is no value of a column. -/
inductive TextFault where
  | notInteger (type : ValueType) (text : String) (cause : IntegerFault)
  | tooLong (maxLength : UInt64)
deriving DecidableEq, Repr

/-- Why a stored text is no value, in words. -/
def TextFault.detail : TextFault → String
  | .notInteger type text cause => s!"invalid {type.name} [{text}]: {cause.message}"
  | .tooLong maxLength => s!"stored text exceeds varchar({Decimal.ofNat maxLength.toNat})"

/-- What a name is given to. -/
inductive NameRole where
  | table
  | column
  | relation
deriving DecidableEq, Repr

/-- What a name is given to, in words. -/
def NameRole.label : NameRole → String
  | .table => "table"
  | .column => "column"
  | .relation => "relation"

/-- The two statements that change rows by a condition. -/
inductive Mutation where
  | update
  | delete
deriving DecidableEq, Repr

/-- The verb of a mutation. -/
def Mutation.label : Mutation → String
  | .update => "update"
  | .delete => "delete"

/-- Why an operation fails. -/
inductive Fault where
  /- Names that are not declared. -/
  | unknownColumn (table name : String)
  | unknownRelation (table key : String)
  | unknownOperator (token : String)
  /- Records that do not fit their table. -/
  | valueType (column : String) (found : ValueType)
  | valueLength (column : String) (maxLength : UInt64)
  | peerTable (key expected found : String)
  | instanceKeyForm
  | recordTable (expected found : String)
  | cellUndefined
  | columnUndefined (column : String)
  | carrierType (expected found : ValueType)
  | storedText (cause : TextFault)
  | columnText (column : String) (cause : TextFault)
  /- Statements that cannot be made. -/
  | valueMissing (table column : String)
  | columnNull (table column : String)
  | instanceKeyNull (table : String)
  | peerWithoutKey (key : String)
  | nothingToAssign (table : String)
  | unconfirmed (mutation : Mutation) (table : String)
  /- Schemas that do not belong together. -/
  | nameEmpty (role : NameRole)
  | nameBacktick (role : NameRole) (name : String)
  | tableRepeated (table : String)
  | nameReserved (role : NameRole) (table name : String)
  | nameRepeated (role : NameRole) (table name : String)
  | primaryCount (table : String) (count : Nat)
  | primaryKind (table column : String)
  | varcharLength (table column : String) (maxLength : UInt64)
  | targetUnregistered (table key target : String)
  | relationUnmatched (table : String) (relation : Relation)
  /- Tables that are not the registered ones. -/
  | tableUnregistered (table : String)
  | layoutDiffers (table : String)
  | noPrimaryKey (table : String)
  | primaryKeyUnset (table column : String)
  /- Answers of the store that do not fit. -/
  | rowColumnMissing (table column : String)
  | reselectCount (table : String) (count : Nat)
  | peerCount (key target : String) (count : Nat)
  | relationWithoutKey (table key : String)
  /- Connections that are of no use any more. -/
  | connectionClosed
  | connectionPoisoned
  /- The store refused, with a text of its own. -/
  | store (text : String)
deriving DecidableEq, Repr

namespace Fault

/-! ## Words -/

/-- The kind of a fault. -/
def kind : Fault → FaultKind
  | .cellUndefined | .columnUndefined .. | .carrierType .. | .storedText .. | .columnText ..
  | .rowColumnMissing .. | .reselectCount .. | .peerCount .. | .relationWithoutKey ..
  | .connectionClosed | .connectionPoisoned => .runtime
  | .store .. => .store
  | _ => .invalidArgument

/-- What is wrong, in words. -/
def detail : Fault → String
  | .unknownColumn table name => s!"unknown column [{name}] on table [{table}]"
  | .unknownRelation table key => s!"unknown relation [{key}] on table [{table}]"
  | .unknownOperator token => s!"invalid operator in query: [{token}]"
  | .valueType column found => s!"column [{column}] does not accept {found.name} values"
  | .valueLength column maxLength =>
    s!"value for column [{column}] exceeds max length {Decimal.ofNat maxLength.toNat}"
  | .peerTable key expected found =>
    s!"relation [{key}] expects a [{expected}] record, found [{found}]"
  | .instanceKeyForm =>
    s!"instance key must be a {Decimal.ofNat instanceKeyLength}-character hyphenated hex key"
  | .recordTable expected found => s!"expected a [{expected}] record, found [{found}]"
  | .cellUndefined => "cell is undefined"
  | .columnUndefined column => s!"column [{column}] is undefined"
  | .carrierType expected found => s!"expected {expected.name} value, found {found.name}"
  | .storedText cause => cause.detail
  | .columnText column cause => s!"column [{column}]: {FaultKind.runtime.heading}{cause.detail}"
  | .valueMissing table column => s!"column [{column}] on table [{table}] requires a value"
  | .columnNull table column => s!"column [{column}] on table [{table}] cannot be null"
  | .instanceKeyNull table => s!"instance key on table [{table}] cannot be null"
  | .peerWithoutKey key => s!"peer linked through relation [{key}] has no instance key"
  | .nothingToAssign table => s!"update on table [{table}] has no defined columns to assign"
  | .unconfirmed mutation table =>
    s!"{mutation.label} on table [{table}] without a predicate requires confirm_unconditional"
  | .nameEmpty role => s!"{role.label} name must be non-empty"
  | .nameBacktick role name => s!"{role.label} name [{name}] contains a backtick"
  | .tableRepeated table => s!"table [{table}] is registered more than once"
  | .nameReserved role table name =>
    s!"{role.label} [{name}] on table [{table}] uses a reserved name"
  | .nameRepeated role table name =>
    s!"{role.label} [{name}] is declared more than once on table [{table}]"
  | .primaryCount table count =>
    s!"table [{table}] declares {Decimal.ofNat count} primary key columns; " ++
      "exactly one is required"
  | .primaryKind table column =>
    s!"column [{column}] on table [{table}] mixes primary and regular kinds"
  | .varcharLength table column maxLength =>
    s!"column [{column}] on table [{table}] has varchar length " ++
      s!"{Decimal.ofNat maxLength.toNat} outside 1..={Decimal.ofNat maxVarcharLength}"
  | .targetUnregistered table key target =>
    s!"relation [{key}] on table [{table}] targets unregistered table [{target}]"
  | .relationUnmatched table relation =>
    s!"{relation.side.name} relation [{relation.key}] on table [{table}] has no matching " ++
      s!"{relation.side.opposite.name} relation [{relation.targetKey}] " ++
      s!"on table [{relation.targetTable}]"
  | .tableUnregistered table => s!"table [{table}] is not registered"
  | .layoutDiffers table => s!"table [{table}] is registered with a different layout"
  | .noPrimaryKey table => s!"table [{table}] has no primary key"
  | .primaryKeyUnset table column => s!"primary key [{column}] on table [{table}] is not set"
  | .rowColumnMissing table column =>
    s!"result row for table [{table}] is missing column [{column}]"
  | .reselectCount table count =>
    s!"reselect after insert into [{table}] returned {Decimal.ofNat count} rows"
  | .peerCount key target count =>
    s!"relation [{key}] matched {Decimal.ofNat count} rows in table [{target}]"
  | .relationWithoutKey table key =>
    s!"cannot resolve relation [{key}] on table [{table}] without an instance key"
  | .connectionClosed => "connection is closed"
  | .connectionPoisoned => "connection mutex poisoned"
  | .store text => text

/-- The full text of a fault. -/
def message (fault : Fault) : String :=
  fault.kind.heading ++ fault.detail

end Fault

end RecordMapper
