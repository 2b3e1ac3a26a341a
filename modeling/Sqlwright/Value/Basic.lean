import Sqlwright.Calendar.Basic
import Sqlwright.Json
import Sqlwright.Number.Basic

/-! The values that statements carry and rows return, and what can be bound as one: an absent
value is bound as null. -/
namespace Sqlwright

structure Uuid where
  bits : BitVec 128
  deriving DecidableEq, Repr

inductive Value where
  | null
  | bool (value : Bool)
  | int (value : Int64)
  | float (value : Binary64)
  | string (value : String)
  | bytes (value : List UInt8)
  | date (value : Date)
  | time (value : Time)
  | dateTime (value : DateTime)
  | offsetDateTime (value : OffsetDateTime)
  | uuid (value : Uuid)
  | json (value : Json)
  | decimal (value : Decimal)

instance : Inhabited Value := ⟨.null⟩

namespace Value

def isNull : Value → Bool
  | .null => true
  | _ => false

end Value

class Bindable (α : Type) where
  toValue : α → Value

namespace Bindable

instance : Bindable Value := ⟨id⟩
instance : Bindable Bool := ⟨.bool⟩
instance : Bindable Int8 := ⟨fun n => .int n.toInt64⟩
instance : Bindable Int16 := ⟨fun n => .int n.toInt64⟩
instance : Bindable Int32 := ⟨fun n => .int n.toInt64⟩
instance : Bindable Int64 := ⟨.int⟩
instance : Bindable UInt8 := ⟨fun n => .int (.ofNat n.toNat)⟩
instance : Bindable UInt16 := ⟨fun n => .int (.ofNat n.toNat)⟩
instance : Bindable UInt32 := ⟨fun n => .int (.ofNat n.toNat)⟩
instance : Bindable Binary32 := ⟨fun x => .float x.widen⟩
instance : Bindable Binary64 := ⟨.float⟩
instance : Bindable String := ⟨.string⟩
instance : Bindable (List UInt8) := ⟨.bytes⟩
instance : Bindable Date := ⟨.date⟩
instance : Bindable Time := ⟨.time⟩
instance : Bindable DateTime := ⟨.dateTime⟩
instance : Bindable OffsetDateTime := ⟨.offsetDateTime⟩
instance : Bindable Uuid := ⟨.uuid⟩
instance : Bindable Json := ⟨.json⟩
instance : Bindable Decimal := ⟨.decimal⟩

instance {α : Type} [Bindable α] : Bindable (Option α) := ⟨fun value => value.elim .null toValue⟩

end Bindable

end Sqlwright
