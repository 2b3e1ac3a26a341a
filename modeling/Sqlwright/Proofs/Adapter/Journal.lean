import Sqlwright.Adapter.Session

/-! The journal of a session. A statement is told of and then sent; whatever is told after that
is about what came back. -/
namespace Sqlwright.Session

variable {σ : Type}

def sending (channel : Channel) (statement : Statement) : List JournalEntry :=
  [.told (.sending channel statement.sql statement.arguments.length), .sent ⟨channel, statement⟩]

theorem reportTells {α : Type} (session : Session σ) (result : Except DriverError α) :
    ∃ reports : List Event, (∀ event ∈ reports, event.level = .warn) ∧
      (session.report result).2 = session.record (reports.map .told) := by
  cases result with
  | ok value => exact ⟨[], by simp, by simp [report, record]⟩
  | error source =>
    cases kind : (Error.ofDriver source).constraint? with
    | some violated =>
      refine ⟨[.violated violated (Error.ofDriver source)], by simp [Event.level], ?_⟩
      simp only [report, kind, tell]
      rfl
    | none => exact ⟨[], by simp, by simp [report, kind, record]⟩

theorem reportSourced {α : Type} {session : Session σ} {result : Except DriverError α}
    {error : Error} (failed : (session.report result).1 = .error (.error error)) :
    ∃ source, error.source? = some source := by
  cases result with
  | ok value => simp [report] at failed
  | error source =>
    have raised : error = Error.ofDriver source := by
      simp only [report] at failed
      split at failed <;> simpa using failed.symm
    refine ⟨source, ?_⟩
    rw [raised, Error.ofDriver]
    split <;> rfl

theorem reportJournal {α : Type} (session : Session σ) (result : Except DriverError α) :
    ∃ reports : List Event,
      (session.report result).2.journal = session.journal ++ reports.map .told := by
  obtain ⟨reports, _, told⟩ := session.reportTells result
  exact ⟨reports, congrArg journal told⟩

theorem executeJournal (session : Session σ) (statement : Statement) :
    ∃ reports : List Event, (session.execute statement).2.journal =
      session.journal ++ sending .execute statement ++ reports.map .told :=
  reportJournal _ _

theorem executeSourced {session : Session σ} {statement : Statement} {error : Error}
    (failed : (session.execute statement).1 = .error (.error error)) :
    ∃ source, error.source? = some source :=
  reportSourced failed

theorem applyWritten {session : Session σ} {sketch : Sketch} {statement : Statement}
    (written : (session.dialect.writeSchema sketch).1 = .ok statement) :
    session.apply sketch = (Session.execute
      { session with dialect := (session.dialect.writeSchema sketch).2 }
      ⟨statement.sql, []⟩).map fun _ => () := by
  obtain ⟨result, dialect, both⟩ : ∃ result dialect,
      session.dialect.writeSchema sketch = (result, dialect) := ⟨_, _, rfl⟩
  have done : result = .ok statement := by simpa only [both] using written
  simp only [apply, both, done]

theorem applyJournal {session : Session σ} {sketch : Sketch} {statement : Statement}
    (written : (session.dialect.writeSchema sketch).1 = .ok statement) :
    ∃ reports : List Event, (session.apply sketch).2.journal =
      session.journal ++ sending .execute ⟨statement.sql, []⟩ ++ reports.map .told := by
  rw [applyWritten written]
  exact executeJournal _ _

theorem applyStopped {session : Session σ} {sketch : Sketch} {obstacle : Obstacle}
    (stopped : (session.dialect.writeSchema sketch).1 = .error obstacle) :
    session.apply sketch = (.error obstacle.failure,
      { session with dialect := (session.dialect.writeSchema sketch).2 }.record
        (obstacle.events.map .told)) := by
  obtain ⟨result, dialect, both⟩ : ∃ result dialect,
      session.dialect.writeSchema sketch = (result, dialect) := ⟨_, _, rfl⟩
  have stop : result = .error obstacle := by simpa only [both] using stopped
  simp only [apply, both, stop]

end Sqlwright.Session
