import Sqlwright.Adapter.Event
import Sqlwright.Error.Basic
import Sqlwright.Value.Integer

/-! Connections as functions on a state of their own, one that answers from a list, and the
integers in the columns of the rows that they return. -/
namespace Sqlwright

abbrev Row := List Value

def Row.integer? (row : Row) (column : Nat) : Except Error (Option Int64) :=
  match row[column]? with
  | none => .error (.decode column .outOfRange)
  | some .null => .ok none
  | some value =>
      match value.integer? with
      | some n => .ok (some n)
      | none => .error (.decode column (.notInteger value))

structure Executed where
  lastInsertId : Int64
  rowsAffected : Nat
  deriving DecidableEq, Repr

structure Connection (σ : Type) where
  execute : Statement → σ → Except DriverError Executed × σ
  fetch : Statement → σ → Except DriverError (List Row) × σ

inductive Answer where
  | rows (rows : List Row)
  | executed (executed : Executed)
  | failed (error : DriverError)

structure Sent where
  channel : Channel
  statement : Statement

structure Script where
  answers : List Answer
  received : List Sent

namespace Script

def next (script : Script) (sent : Sent) : Option Answer × Script :=
  (script.answers.head?, ⟨script.answers.tail, script.received ++ [sent]⟩)

def execution : Option Answer → Except DriverError Executed
  | some (.executed executed) => .ok executed
  | some (.failed error) => .error error
  | _ => .ok ⟨0, 0⟩

def fetched : Option Answer → Except DriverError (List Row)
  | some (.rows rows) => .ok rows
  | some (.failed error) => .error error
  | _ => .ok []

def connection : Connection Script where
  execute statement script :=
    let (answer, script) := script.next ⟨.execute, statement⟩
    (execution answer, script)
  fetch statement script :=
    let (answer, script) := script.next ⟨.fetch, statement⟩
    (fetched answer, script)

end Script

end Sqlwright
