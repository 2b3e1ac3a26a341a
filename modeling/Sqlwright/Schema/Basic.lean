import Sqlwright.Calendar.Layout
import Sqlwright.Query.Basic

/-! Changes of a schema: tables with their columns and keys, and indexes. An optional change
looks first if the table or index exists. A native type is a column type as the database names
it; sizes of zero are not written. A text without a limit has the usual length, and none is
longer than the longest. -/
namespace Sqlwright

inductive Operation where
  | create | alter | rename | drop
  deriving DecidableEq, Repr

inductive ColumnKind where
  | id | bigId | bool | int | bigInt | float | decimal | string | text | json | date | dateTime | time
  | custom (native : String)
  deriving DecidableEq, Repr

structure Column where
  name : String
  kind : ColumnKind
  operation : Operation
  rename : String
  unique : Bool
  required : Bool
  primary : Bool
  limit : Nat
  precision : Nat
  scale : Nat
  default? : Option Value
  options : String

inductive KeyKind where
  | primary | unique | foreign
  deriving DecidableEq, Repr

structure Reference where
  table : String
  columns : List String
  onDelete : String
  onUpdate : String
  deriving DecidableEq, Repr

structure Key where
  kind : KeyKind
  operation : Operation
  name : String
  columns : List String
  rename : String
  options : String
  reference? : Option Reference
  deriving DecidableEq, Repr

inductive Definition where
  | column (column : Column)
  | key (key : Key)
  | raw (sql : String)

structure Table where
  operation : Operation
  name : String
  rename : String
  optional : Bool
  options : String
  definitions : List Definition

structure Index where
  operation : Operation
  table : String
  name : String
  columns : List String
  unique : Bool
  optional : Bool
  filter : Filter
  options : String

structure NativeType where
  name : String
  size : Nat
  scale : Nat
  layout? : Option Layout
  deriving DecidableEq, Repr

namespace NativeType

def plain (name : String) : NativeType := ⟨name, 0, 0, none⟩

def laidOut (name : String) (layout : Layout) : NativeType := ⟨name, 0, 0, some layout⟩

end NativeType

def longestText : Nat := 4000
def usualText : Nat := 255

def Column.textLength (column : Column) : Nat :=
  if column.limit = 0 then usualText else min column.limit longestText

def Column.nativeType (column : Column) : NativeType :=
  match column.kind with
  | .id => .plain "INT NOT NULL IDENTITY(1,1)"
  | .bigId => .plain "BIGINT NOT NULL IDENTITY(1,1)"
  | .bool => .plain "BIT"
  | .int => .plain "INT"
  | .bigInt => .plain "BIGINT"
  | .float => ⟨"FLOAT", column.precision, 0, none⟩
  | .decimal => ⟨"DECIMAL", column.precision, column.scale, none⟩
  | .string => ⟨"NVARCHAR", column.textLength, 0, none⟩
  | .text | .json => .plain "NVARCHAR(MAX)"
  | .date => .laidOut "DATE" Layout.date
  | .dateTime => .laidOut "DATETIMEOFFSET" Layout.dateTime
  | .time => .laidOut "TIME" Layout.time
  | .custom native => .plain native

abbrev ColumnMapper := Column → NativeType

end Sqlwright
