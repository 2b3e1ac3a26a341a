import Sqlwright.Error.Constraint
import Sqlwright.Schema.Basic
import Sqlwright.Value.Description

/-! What can go wrong, by its cause, and the text that says so. A driver's report has the texts of
what caused it, the nearest first. -/
namespace Sqlwright

structure DriverError where
  message : String
  causes : List String
  deriving DecidableEq, Repr

inductive DecodeReason where
  | outOfRange
  | notInteger (value : Value)
  | nullId (row : Nat)
  | stated (text : String)

inductive ValidationReason where
  | nothingToSet (table : String)
  | stated (text : String)

inductive Rejection where
  | indexOperation (operation : Operation) (index table : String)
  | columnAlteration (column table : String)
  | keyOperation (operation : Operation) (key table : String)
  | stated (text : String)

inductive Error where
  | driver (source : DriverError)
  | violation (kind : ConstraintKind) (key : String) (source? : Option DriverError)
  | notFound (text : String)
  | decode (column : Nat) (reason : DecodeReason)
  | validation (reason : ValidationReason)
  | unsupported (reason : Rejection)
  | other (text : String)

def Operation.word : Operation → String
  | .create => "Create"
  | .alter => "Alter"
  | .rename => "Rename"
  | .drop => "Drop"

def DecodeReason.message : DecodeReason → String
  | .outOfRange => "column index out of range"
  | .notInteger value => "expected integer, got " ++ value.description
  | .nullId row => "inserted row " ++ toString row ++ " returned a NULL id"
  | .stated text => text

def ValidationReason.message : ValidationReason → String
  | .nothingToSet table => "update of " ++ table ++ " has no columns to set"
  | .stated text => text

def Rejection.message : Rejection → String
  | .indexOperation operation index table =>
      operation.word ++ " of index " ++ index ++ " on table " ++ table
  | .columnAlteration column table => "altering column " ++ column ++ " of table " ++ table
  | .keyOperation operation key table =>
      operation.word ++ " of key " ++ Text.quoted key ++ " on table " ++ table
  | .stated text => text

def ConstraintKind.announcement : ConstraintKind → String
  | .unique => "Unique constraint violation: "
  | .foreignKey => "Foreign key violation: "
  | .check => "Check constraint violation: "

namespace Error

def message : Error → String
  | .driver source => "Query error: " ++ source.message
  | .violation kind key _ => kind.announcement ++ key
  | .notFound text => "Not found: " ++ text
  | .decode column reason =>
      "Decode error on column " ++ toString column ++ ": " ++ reason.message
  | .validation reason => "Validation error: " ++ reason.message
  | .unsupported reason => "Unsupported operation: " ++ reason.message
  | .other text => text

def source? : Error → Option DriverError
  | .driver source => some source
  | .violation _ _ source? => source?
  | _ => none

def constraint? : Error → Option ConstraintKind
  | .violation kind _ _ => some kind
  | _ => none

def isNotFound : Error → Bool
  | .notFound _ => true
  | _ => false

def chain (error : Error) : List String :=
  match error.source? with
  | some source => source.message :: source.causes
  | none => []

def ofDriver (source : DriverError) : Error :=
  match Constraint.classify source.message with
  | some (kind, key) => .violation kind key (some source)
  | none => .driver source

end Error

end Sqlwright
