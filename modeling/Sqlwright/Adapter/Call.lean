import Sqlwright.Adapter.Session

/-! Calls of a session as data, so that a run of them is a list. -/
namespace Sqlwright

inductive Call where
  | query (query : Query)
  | aggregate (query : Query) (mode field : String)
  | insert (insert : Insert)
  | insertAll (insert : BulkInsert)
  | update (update : Update)
  | delete (delete : Delete)
  | execute (statement : Statement)
  | applyTable (table : Table)
  | applyIndex (index : Index)

inductive Result where
  | rows (rows : List Row)
  | total (total : Int64)
  | id (id? : Option Int64)
  | ids (ids : List Int64)
  | affected (rows : Nat)
  | executed (executed : Executed)
  | applied

namespace Session

variable {σ : Type}

def run (session : Session σ) : Call → Outcome σ Result
  | .query q => (session.query q).map .rows
  | .aggregate q mode field => (session.aggregate q mode field).map .total
  | .insert i => (session.insert i).map .id
  | .insertAll i => (session.insertAll i).map .ids
  | .update u => (session.update u).map .affected
  | .delete d => (session.delete d).map .affected
  | .execute statement => (session.execute statement).map .executed
  | .applyTable t => (session.applyTable t).map fun _ => .applied
  | .applyIndex i => (session.applyIndex i).map fun _ => .applied

def runAll (session : Session σ) : List Call → List (Except Failure Result) × Session σ
  | [] => ([], session)
  | call :: rest =>
      let (result, session) := session.run call
      let (results, session) := session.runAll rest
      (result :: results, session)

end Session

end Sqlwright
