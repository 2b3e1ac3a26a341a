import Sqlwright.Schema.Sketch

/-! What is told about the work of an adapter. -/
namespace Sqlwright

inductive Channel where
  | execute | fetch
  deriving DecidableEq, Repr

def Channel.name : Channel → String
  | .execute => "adapter-exec"
  | .fetch => "adapter-query"

inductive Level where
  | trace | debug | warn
  deriving DecidableEq, Repr

def Level.name : Level → String
  | .trace => "TRACE"
  | .debug => "DEBUG"
  | .warn => "WARN"

inductive Event where
  | sending (channel : Channel) (sql : String) (parameters : Nat)
  | violated (kind : ConstraintKind) (error : Error)
  | missingId (table primary : String)
  | missingIds (table primary : String)
  | rejected (reason : Rejection)

namespace Event

def level : Event → Level
  | .sending .. => .debug
  | .rejected _ => .trace
  | _ => .warn

def message? : Event → Option String
  | .sending .. => none
  | .violated .. => some "constraint violation"
  | .missingId .. => some "insert returned no id"
  | .missingIds .. => some "insert returned no ids"
  | .rejected reason => some reason.message

end Event

def Obstacle.events : Obstacle → List Event
  | .rejected reason => [.rejected reason]
  | .unprintable .. => []

end Sqlwright
