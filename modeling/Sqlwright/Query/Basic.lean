import Sqlwright.Statement

/-! Queries and the filters in them. A filter may hold queries and a query holds filters. A
fragment is a text with placeholders of its own and the values bound to them; so is a join
without a table, where the mode is the whole text. A limit of zero asks for all rows. A raw
statement takes the place of everything else, unless its text is empty. -/
namespace Sqlwright

inductive Comparison where
  | equal | unequal | less | lessEqual | greater | greaterEqual
  deriving DecidableEq, Repr

structure SortKey where
  field : String
  ascending : Bool
  deriving DecidableEq, Repr

mutual

inductive Filter where
  | and (children : List Filter)
  | or (children : List Filter)
  | not (children : List Filter)
  | compare (field : String) (comparison : Comparison) (operand : Operand)
  | null (field : String) (negated : Bool)
  | among (field : String) (operands : List Operand) (negated : Bool)
  | like (field : String) (pattern : Value) (negated : Bool)
  | fragment (sql : String) (values : List Value)

inductive Operand where
  | value (value : Value)
  | query (query : Query)
  | led (lead : String) (query : Query)

structure Join where
  mode : String
  table : String
  source : String
  target : String
  arguments : List Value
  filter : Filter

structure Query where
  table : String
  fields : List String
  distinct : Bool
  joins : List Join
  filter : Filter
  groupFields : List String
  having : Filter
  sorts : List SortKey
  limit : Nat
  offset : Nat
  lock? : Option String
  raw? : Option Statement

end

namespace Filter

def empty : Filter := .and []

instance : Inhabited Filter := ⟨empty⟩

mutual

def isEmpty : Filter → Bool
  | .and children => allEmpty children
  | .or children => allEmpty children
  | .not children => allEmpty children
  | _ => false
termination_by structural filter => filter

def allEmpty : List Filter → Bool
  | [] => true
  | child :: rest => child.isEmpty && allEmpty rest
termination_by structural children => children

end

theorem allEmptyIff {children : List Filter} :
    allEmpty children = true ↔ ∀ child ∈ children, child.isEmpty = true := by
  induction children with
  | nil => simp [allEmpty]
  | cons child rest ih => simp [allEmpty, ih]

def andWith (filter other : Filter) : Filter :=
  if other.isEmpty then filter
  else
    match filter with
    | .and children => .and (children ++ [other])
    | _ => .and [filter, other]

def orWith (filter other : Filter) : Filter :=
  if filter.isEmpty then other
  else
    match filter with
    | .or children => .or (children ++ [other])
    | _ => .or [filter, other]

end Filter

namespace Operand

def isQuery : Operand → Bool
  | .value _ => false
  | _ => true

class From (α : Type) where
  toOperand : α → Operand

instance {α : Type} [Bindable α] : From α := ⟨fun x => .value (Bindable.toValue x)⟩
instance : From Query := ⟨.query⟩

end Operand

namespace Join

def on (mode table source target : String) : Join := ⟨mode, table, source, target, [], .empty⟩

def raw (sql : String) (arguments : List Value) : Join := ⟨sql, "", "", "", arguments, .empty⟩

end Join

namespace Query

def ofTable (table : String) : Query where
  table := table
  fields := []
  distinct := false
  joins := []
  filter := .empty
  groupFields := []
  having := .empty
  sorts := []
  limit := 0
  offset := 0
  lock? := none
  raw? := none

def empty : Query := ofTable ""

def ofStatement (statement : Statement) : Query := { empty with raw? := some statement }

def select (query : Query) (fields : List String) : Query := { query with fields }

def withoutRepeats (query : Query) : Query := { query with distinct := true }

def join (query : Query) (join : Join) : Query := { query with joins := query.joins ++ [join] }

def joinOn (query : Query) (table source target : String) : Query :=
  query.join (.on "JOIN" table source target)

def leftJoinOn (query : Query) (table source target : String) : Query :=
  query.join (.on "LEFT JOIN" table source target)

def restrict (query : Query) (filter : Filter) : Query :=
  { query with filter := query.filter.andWith filter }

def groupBy (query : Query) (groupFields : List String) : Query := { query with groupFields }

def restrictGroups (query : Query) (filter : Filter) : Query :=
  { query with having := query.having.andWith filter }

def sortBy (query : Query) (field : String) (ascending : Bool) : Query :=
  { query with sorts := query.sorts ++ [⟨field, ascending⟩] }

def take (query : Query) (limit : Nat) : Query := { query with limit }

def skip (query : Query) (offset : Nat) : Query := { query with offset }

def locked (query : Query) (lock : String) : Query := { query with lock? := some lock }

def statement? (query : Query) : Option Statement := query.raw?.filter (!·.sql.isEmpty)

end Query

end Sqlwright
