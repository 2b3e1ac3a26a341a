import Sqlwright.Adapter.Connection
import Sqlwright.Dialect

/-! Sessions run statements on a connection and write a journal of what they tell and send. A
driver's error is told when it is a constraint violation; an insert that asked for a number
and got none is taken for one. What an aggregate computes stands behind the mark `^`, and is
zero where there is no row. Schema statements are sent without arguments. -/
namespace Sqlwright

inductive Failure where
  | error (error : Error)
  | unprintable (value : Value) (layout : Layout)

def Obstacle.failure : Obstacle → Failure
  | .rejected reason => .error (.unsupported reason)
  | .unprintable value layout => .unprintable value layout

inductive JournalEntry where
  | told (event : Event)
  | sent (sent : Sent)

structure Session (σ : Type) where
  dialect : Dialect
  connection : Connection σ
  state : σ
  journal : List JournalEntry

abbrev Outcome (σ α : Type) := Except Failure α × Session σ

namespace Outcome

def map {σ α β : Type} (f : α → β) (outcome : Outcome σ α) : Outcome σ β :=
  (outcome.1.map f, outcome.2)

theorem mapFailed {σ α β : Type} {f : α → β} {outcome : Outcome σ α} {failure : Failure} :
    (outcome.map f).1 = .error failure ↔ outcome.1 = .error failure := by
  obtain ⟨result, session⟩ := outcome
  cases result <;> simp [map, Except.map]

end Outcome

namespace Session

variable {σ : Type}

def name : String := "mssql"

def start (dialect : Dialect) (connection : Connection σ) (state : σ) : Session σ :=
  ⟨dialect, connection, state, []⟩

def record (session : Session σ) (entries : List JournalEntry) : Session σ :=
  { session with journal := session.journal ++ entries }

def tell (session : Session σ) (event : Event) : Session σ := session.record [.told event]

def events (session : Session σ) : List Event :=
  session.journal.filterMap fun
    | .told event => some event
    | .sent _ => none

def write (session : Session σ) (pieces : List Piece) : Statement × Session σ :=
  let (statement, dialect) := session.dialect.write pieces
  (statement, { session with dialect })

def announce (session : Session σ) (channel : Channel) (statement : Statement) : Session σ :=
  session.record
    [.told (.sending channel statement.sql statement.arguments.length),
     .sent ⟨channel, statement⟩]

def report {α : Type} (session : Session σ) : Except DriverError α → Outcome σ α
  | .ok result => (.ok result, session)
  | .error source =>
      let error := Error.ofDriver source
      match error.constraint? with
      | some kind => (.error (.error error), session.tell (.violated kind error))
      | none => (.error (.error error), session)

def execute (session : Session σ) (statement : Statement) : Outcome σ Executed :=
  let session := session.announce .execute statement
  let (result, state) := session.connection.execute statement session.state
  { session with state }.report result

def fetch (session : Session σ) (statement : Statement) : Outcome σ (List Row) :=
  let session := session.announce .fetch statement
  let (result, state) := session.connection.fetch statement session.state
  { session with state }.report result

def query (session : Session σ) (query : Query) : Outcome σ (List Row) :=
  let (statement, session) := session.write query.statementPieces
  session.fetch statement

def aggregateField (mode field : String) : String := "^" ++ mode ++ "(" ++ field ++ ") AS result"

def leading (rows : List Row) : Except Error Int64 :=
  match rows.head? with
  | none => .ok 0
  | some row => (row.integer? 0).map (·.getD 0)

def decoded {α : Type} (session : Session σ) : Except Error α → Outcome σ α
  | .ok result => (.ok result, session)
  | .error error => (.error (.error error), session)

def aggregate (session : Session σ) (query : Query) (mode field : String) : Outcome σ Int64 :=
  let (escaped, dialect) := session.dialect.escape field
  let session := { session with dialect }
  match session.query (query.select (aggregateField mode escaped :: query.groupFields)) with
  | (.error failure, session) => (.error failure, session)
  | (.ok rows, session) => session.decoded (leading rows)

def withoutId : Failure → Failure
  | .error (.driver source) => .error (.violation .unique "" (some source))
  | failure => failure

def lackingId : Failure := .error (.violation .unique "" none)

def insert (session : Session σ) (insert : Insert) : Outcome σ (Option Int64) :=
  let (statement, session) := session.write insert.pieces
  if insert.primary.isEmpty then (session.execute statement).map fun _ => none
  else
    match session.fetch statement with
    | (.error failure, session) => (.error (withoutId failure), session)
    | (.ok rows, session) =>
        match leading rows with
        | .error error => (.error (.error error), session)
        | .ok id =>
            if id = 0 then
              (.error lackingId, session.tell (.missingId insert.table insert.primary))
            else (.ok (some id), session)

def ids : Nat → List Row → Except Error (List Int64)
  | _, [] => .ok []
  | before, row :: rest =>
      match row.integer? 0 with
      | .error error => .error error
      | .ok none => .error (.decode 0 (.nullId before))
      | .ok (some id) => (ids (before + 1) rest).map (id :: ·)

def insertAll (session : Session σ) (insert : BulkInsert) : Outcome σ (List Int64) :=
  if insert.rows.isEmpty then (.ok [], session)
  else
    let (statement, session) := session.write insert.pieces
    if insert.primary.isEmpty then (session.execute statement).map fun _ => []
    else
      match session.fetch statement with
      | (.error failure, session) => (.error (withoutId failure), session)
      | (.ok rows, session) =>
          match ids 0 rows with
          | .error error => (.error (.error error), session)
          | .ok [] => (.error lackingId, session.tell (.missingIds insert.table insert.primary))
          | .ok ids => (.ok ids, session)

def update (session : Session σ) (update : Update) : Outcome σ Nat :=
  if update.changes.hasAssignments update.primary then
    let (statement, session) := session.write update.pieces
    (session.execute statement).map (·.rowsAffected)
  else (.error (.error (.validation (.nothingToSet update.table))), session)

def delete (session : Session σ) (delete : Delete) : Outcome σ Nat :=
  let (statement, session) := session.write delete.pieces
  (session.execute statement).map (·.rowsAffected)

def apply (session : Session σ) (sketch : Sketch) : Outcome σ Unit :=
  match session.dialect.writeSchema sketch with
  | (.error obstacle, dialect) =>
      (.error obstacle.failure,
        { session with dialect }.record (obstacle.events.map .told))
  | (.ok statement, dialect) =>
      ({ session with dialect }.execute ⟨statement.sql, []⟩).map fun _ => ()

def applyTable (session : Session σ) (table : Table) : Outcome σ Unit :=
  session.apply (table.sketch session.dialect.mapper)

def applyIndex (session : Session σ) (index : Index) : Outcome σ Unit :=
  session.apply index.sketch

end Session

end Sqlwright
