import Mathlib
import Sqlwright.Adapter.Call
import Sqlwright.Proofs.Adapter.Journal

/-! What becomes of an error of the connection. A call sends one statement or none; if that one is
answered with an error, the call fails with an error raised from it, which has it as its source,
and only a constraint violation is told. -/
namespace Sqlwright

namespace Connection

def errorOf? {α : Type} : Except DriverError α → Option DriverError
  | .ok _ => none
  | .error source => some source

def error? {σ : Type} (connection : Connection σ) (state : σ) (sent : Sent) :
    Option DriverError :=
  match sent.channel with
  | .execute => errorOf? (connection.execute sent.statement state).1
  | .fetch => errorOf? (connection.fetch sent.statement state).1

theorem errorOfSome {α : Type} {result : Except DriverError α} {source : DriverError} :
    errorOf? result = some source ↔ result = .error source := by
  cases result <;> simp [errorOf?]

end Connection

def Call.asksNumber : Call → Bool
  | .insert i => !i.primary.isEmpty
  | .insertAll i => !i.primary.isEmpty
  | _ => false

namespace Error

def raised (asked : Bool) (source : DriverError) : Error :=
  match Constraint.classify source.message with
  | some (kind, key) => .violation kind key (some source)
  | none =>
      -- a number that was asked for is missing then
      if asked then .violation .unique "" (some source) else .driver source

def warnings (source : DriverError) : List Event :=
  match Constraint.classify source.message with
  | some (kind, key) => [.violated kind (.violation kind key (some source))]
  | none => []

theorem raisedUnasked (source : DriverError) : raised false source = ofDriver source := by
  unfold raised ofDriver
  cases Constraint.classify source.message <;> rfl

theorem raisedAsked (source : DriverError) :
    Session.withoutId (.error (ofDriver source)) = .error (raised true source) := by
  unfold raised ofDriver
  cases Constraint.classify source.message <;> rfl

theorem chainOfRaised (asked : Bool) (source : DriverError) :
    (raised asked source).chain = source.message :: source.causes := by
  unfold raised
  cases Constraint.classify source.message with
  | some violation => rfl
  | none => cases asked <;> rfl

end Error

namespace Session

variable {σ α β : Type}

def Tells (before after : Session σ) : Prop :=
  ∃ reports : List Event, after.journal = before.journal ++ reports.map .told

theorem Tells.refl (session : Session σ) : session.Tells session := ⟨[], by simp⟩

theorem tellTells (session : Session σ) (event : Event) : session.Tells (session.tell event) :=
  ⟨[event], rfl⟩

/-- One statement is sent. If the connection answers it with an error, that is what the outcome
is, and nothing but the warnings is told. -/
structure Relays (session : Session σ) (asked : Bool) (sent : Sent) (outcome : Outcome σ α) :
    Prop where
  journal : ∃ reports : List Event, outcome.2.journal =
    session.journal ++ sending sent.channel sent.statement ++ reports.map .told
  failed : ∀ source, session.connection.error? session.state sent = some source →
    outcome.1 = .error (.error (.raised asked source)) ∧
    outcome.2.journal = session.journal ++ sending sent.channel sent.statement ++
      (Error.warnings source).map .told

theorem reportFailed (session : Session σ) (source : DriverError) :
    (session.report (.error source) : Outcome σ α) = (.error (.error (.raised false source)),
      session.record ((Error.warnings source).map .told)) := by
  simp only [report, Error.raised, Error.warnings, Error.ofDriver]
  cases Constraint.classify source.message with
  | some violation => rfl
  | none => simp [Error.constraint?, record]

theorem reportRelays (session : Session σ) (sent : Sent) (state : σ)
    {result : Except DriverError α}
    (answered : session.connection.error? session.state sent = Connection.errorOf? result) :
    session.Relays false sent
      ({ session.announce sent.channel sent.statement with state }.report result) := by
  refine ⟨reportJournal _ _, fun source failed => ?_⟩
  have same : result = .error source := Connection.errorOfSome.mp (answered.symm.trans failed)
  rw [same, reportFailed]
  exact ⟨rfl, rfl⟩

theorem executeRelays (session : Session σ) (statement : Statement) :
    session.Relays false ⟨.execute, statement⟩ (session.execute statement) :=
  session.reportRelays ⟨.execute, statement⟩ _ rfl

theorem fetchRelays (session : Session σ) (statement : Statement) :
    session.Relays false ⟨.fetch, statement⟩ (session.fetch statement) :=
  session.reportRelays ⟨.fetch, statement⟩ _ rfl

namespace Relays

variable {session : Session σ} {asked : Bool} {sent : Sent} {outcome : Outcome σ α}

theorem written {dialect : Dialect}
    (relays : Relays { session with dialect } asked sent outcome) :
    session.Relays asked sent outcome :=
  ⟨relays.journal, relays.failed⟩

theorem map (relays : session.Relays asked sent outcome) (f : α → β) :
    session.Relays asked sent (outcome.map f) := by
  refine ⟨relays.journal, fun source failed => ?_⟩
  obtain ⟨result, journal⟩ := relays.failed source failed
  exact ⟨Outcome.mapFailed.mpr result, journal⟩

theorem after {whole : Outcome σ β} (relays : session.Relays false sent outcome)
    (raise : Failure → Failure)
    (raises : ∀ source, raise (.error (.raised false source)) = .error (.raised asked source))
    (fails : ∀ failure later, outcome = (.error failure, later) →
      whole = (.error (raise failure), later))
    (goesOn : ∀ result later, outcome = (.ok result, later) → later.Tells whole.2) :
    session.Relays asked sent whole := by
  obtain ⟨result, later⟩ := outcome
  obtain ⟨⟨reports, journal⟩, failed⟩ := relays
  cases result with
  | error failure =>
    rw [fails failure later rfl]
    refine ⟨⟨reports, journal⟩, fun source here => ?_⟩
    obtain ⟨same, told⟩ := failed source here
    cases Except.error.inj same
    exact ⟨congrArg Except.error (raises source), told⟩
  | ok value =>
    obtain ⟨more, added⟩ := goesOn value later rfl
    refine ⟨⟨reports ++ more, ?_⟩, fun source here => ?_⟩
    · rw [added, journal, List.map_append, List.append_assoc, List.append_assoc]
    · -- there is no result where the connection answers with an error
      cases (failed source here).1

end Relays

variable (session : Session σ)

theorem queryRelays (query : Query) :
    session.Relays false ⟨.fetch, (session.write query.statementPieces).1⟩
      (session.query query) :=
  (fetchRelays _ _).written

def aggregateQuery (query : Query) (mode field : String) : Query :=
  query.select (aggregateField mode (session.dialect.escape field).1 :: query.groupFields)

def aggregateStatement (query : Query) (mode field : String) : Statement :=
  ((session.dialect.escape field).2.query (session.aggregateQuery query mode field)).1

theorem aggregateRelays (query : Query) (mode field : String) :
    session.Relays false ⟨.fetch, session.aggregateStatement query mode field⟩
      (session.aggregate query mode field) := by
  refine (queryRelays { session with dialect := (session.dialect.escape field).2 }
    (session.aggregateQuery query mode field)).written.after id (fun _ => rfl) ?_ ?_
  · intro failure later answered
    rw [aggregateQuery] at answered
    simp only [aggregate, answered]
    rfl
  · intro rows later answered
    rw [aggregateQuery] at answered
    simp only [aggregate, answered]
    cases leading rows <;> exact Tells.refl later

theorem numberRelays (pieces : List Piece) {whole : Outcome σ α}
    (fails : ∀ failure later,
      (session.write pieces).2.fetch (session.write pieces).1 = (.error failure, later) →
      whole = (.error (withoutId failure), later))
    (goesOn : ∀ rows later,
      (session.write pieces).2.fetch (session.write pieces).1 = (.ok rows, later) →
      later.Tells whole.2) :
    ∃ sent, session.Relays true sent whole := by
  refine ⟨_, (fetchRelays _ _).written.after withoutId (fun source => ?_) fails goesOn⟩
  rw [Error.raisedUnasked]
  exact Error.raisedAsked source

theorem insertRelays (insert : Insert) :
    ∃ sent, session.Relays (!insert.primary.isEmpty) sent (session.insert insert) := by
  cases unasked : insert.primary.isEmpty with
  | true =>
    simp only [Session.insert, unasked]
    exact ⟨_, (executeRelays _ _).written.map _⟩
  | false =>
    refine session.numberRelays insert.pieces ?_ ?_
    · intro failure later answered
      simp only [Session.insert, unasked, answered]
      rfl
    · intro rows later answered
      simp only [Session.insert, unasked, answered, Bool.false_eq_true, if_false]
      split
      · exact Tells.refl later
      · split
        · exact tellTells later _
        · exact Tells.refl later

theorem insertAllRelays {insert : BulkInsert} (filled : insert.rows.isEmpty = false) :
    ∃ sent, session.Relays (!insert.primary.isEmpty) sent (session.insertAll insert) := by
  cases unasked : insert.primary.isEmpty with
  | true =>
    simp only [Session.insertAll, filled, unasked]
    exact ⟨_, (executeRelays _ _).written.map _⟩
  | false =>
    refine session.numberRelays insert.pieces ?_ ?_
    · intro failure later answered
      simp only [Session.insertAll, filled, unasked, answered]
      rfl
    · intro rows later answered
      simp only [Session.insertAll, filled, unasked, answered, Bool.false_eq_true, if_false]
      split
      · exact Tells.refl later
      · exact tellTells later _
      · exact Tells.refl later

theorem applyRelays (sketch : Sketch) :
    (∃ sent, session.Relays false sent (session.apply sketch)) ∨
      session.Tells (session.apply sketch).2 := by
  cases written : (session.dialect.writeSchema sketch).1 with
  | error obstacle =>
    right
    rw [applyStopped written]
    exact ⟨obstacle.events, rfl⟩
  | ok statement =>
    left
    rw [applyWritten written]
    exact ⟨_, (executeRelays _ _).written.map _⟩

theorem runRelays (call : Call) :
    (∃ sent, session.Relays call.asksNumber sent (session.run call)) ∨
      session.Tells (session.run call).2 := by
  have mapped : ∀ {α : Type} {asked : Bool} {outcome : Outcome σ α} (f : α → Result),
      (∃ sent, session.Relays asked sent outcome) →
      ∃ sent, session.Relays asked sent (outcome.map f) :=
    fun f ⟨sent, relays⟩ => ⟨sent, relays.map f⟩
  cases call with
  | query q => exact .inl (mapped _ ⟨_, session.queryRelays q⟩)
  | aggregate q mode field => exact .inl (mapped _ ⟨_, session.aggregateRelays q mode field⟩)
  | insert i => exact .inl (mapped _ (session.insertRelays i))
  | insertAll i =>
    cases filled : i.rows.isEmpty with
    | true =>
      right
      have same : (session.insertAll i).2 = session := by simp [insertAll, filled]
      show session.Tells (session.insertAll i).2
      rw [same]
      exact Tells.refl session
    | false => exact .inl (mapped _ (session.insertAllRelays filled))
  | update u =>
    cases assigns : u.changes.hasAssignments u.primary with
    | false =>
      right
      have same : (session.update u).2 = session := by simp [Session.update, assigns]
      show session.Tells (session.update u).2
      rw [same]
      exact Tells.refl session
    | true =>
      left
      refine mapped _ ⟨⟨.execute, (session.write u.pieces).1⟩, ?_⟩
      simp only [Session.update, assigns]
      exact (executeRelays _ _).written.map _
  | delete d => exact .inl (mapped _ ⟨_, (executeRelays _ _).written.map _⟩)
  | execute statement => exact .inl (mapped _ ⟨_, session.executeRelays statement⟩)
  | applyTable t => exact (session.applyRelays _).imp_left (mapped _)
  | applyIndex i => exact (session.applyRelays _).imp_left (mapped _)

theorem sentRelays {session : Session σ} {call : Call} {told : List JournalEntry} {sent : Sent}
    (journal : (session.run call).2.journal = session.journal ++ told) (reached : .sent sent ∈ told) :
    session.Relays call.asksNumber sent (session.run call) := by
  rcases session.runRelays call with ⟨own, relays⟩ | ⟨reports, silent⟩
  · obtain ⟨reports, sending⟩ := relays.journal
    have same : told = Session.sending own.channel own.statement ++ reports.map .told := by
      rw [journal, List.append_assoc] at sending
      exact List.append_cancel_left sending
    have one : sent = own := by simpa [same, Session.sending] using reached
    exact one ▸ relays
  · have same : told = reports.map .told := List.append_cancel_left (journal.symm.trans silent)
    simp [same] at reached

end Session

theorem driverErrorKept {σ : Type} (session : Session σ) (call : Call) {told : List JournalEntry}
    {sent : Sent} {source : DriverError}
    (journal : (session.run call).2.journal = session.journal ++ told)
    (reached : .sent sent ∈ told)
    (failed : session.connection.error? session.state sent = some source) :
    ∃ error, (session.run call).1 = .error (.error error) ∧
      error.chain = source.message :: source.causes ∧
      match Constraint.classify source.message with
      | some (kind, key) =>
          error = .violation kind key (some source) ∧
          told = Session.sending sent.channel sent.statement ++ [.told (.violated kind error)]
      | none =>
          error = (if call.asksNumber then .violation .unique "" (some source)
            else .driver source) ∧
          told = Session.sending sent.channel sent.statement := by
  obtain ⟨result, whole⟩ := (Session.sentRelays journal reached).failed source failed
  have own : told = Session.sending sent.channel sent.statement ++
      (Error.warnings source).map .told := by
    rw [journal, List.append_assoc] at whole
    exact List.append_cancel_left whole
  refine ⟨_, result, Error.chainOfRaised _ source, ?_⟩
  cases classified : Constraint.classify source.message with
  | some violation => simp [own, Error.raised, Error.warnings, classified]
  | none => simp [own, Error.raised, Error.warnings, classified]

theorem seatErrorKept :
    let taken : DriverError := ⟨"mssql: Violation of UNIQUE KEY constraint 'uq_seat'.", ["2627"]⟩
    let lost : DriverError := ⟨"connection reset", ["socket closed"]⟩
    let add := Call.insert ⟨"seat", "id", .ofList [("row", .set (.int 2))]⟩
    let session := fun source =>
      Session.start .standard Script.connection ⟨[.failed source], []⟩
    let sent : Sent := ⟨.fetch,
      "INSERT INTO [seat] ([row]) OUTPUT [INSERTED].[id] VALUES (@p1);", [.int 2]⟩
    let violated := Error.violation .unique "uq_seat" (some taken)
    (∀ source ∈ [taken, lost], .sent sent ∈ ((session source).run add).2.journal ∧
      (session source).connection.error? (session source).state sent = some source) ∧
    ((session taken).run add).1 = .error (.error violated) ∧
    ((session taken).run add).2.journal =
      Session.sending sent.channel sent.statement ++ [.told (.violated .unique violated)] ∧
    ((session lost).run add).1 = .error (.error (.violation .unique "" (some lost))) ∧
    ((session lost).run add).2.journal = Session.sending sent.channel sent.statement := by
  intro taken lost add session sent violated
  have reached : ∀ source ∈ [taken, lost], .sent sent ∈ ((session source).run add).2.journal := by
    have first : ∀ source ∈ [taken, lost],
        Session.sending sent.channel sent.statement <+: ((session source).run add).2.journal := by
      simp only [List.mem_cons, List.not_mem_nil, or_false, forall_eq_or_imp, forall_eq]
      exact ⟨⟨[.told (.violated .unique violated)], by cbv⟩, ⟨[], by cbv⟩⟩
    exact fun source member => (first source member).subset (by simp [Session.sending])
  have failed : ∀ source ∈ [taken, lost],
      (session source).connection.error? (session source).state sent = some source :=
    fun source _ => rfl
  obtain ⟨error, result, -, kept⟩ := driverErrorKept (session taken) add
    (List.nil_append _).symm (reached taken (by simp)) (failed taken (by simp))
  obtain ⟨other, missing, -, plain⟩ := driverErrorKept (session lost) add
    (List.nil_append _).symm (reached lost (by simp)) (failed lost (by simp))
  have classified : Constraint.classify taken.message = some (.unique, "uq_seat") := by cbv
  have unclassified : Constraint.classify lost.message = none := by cbv
  simp only [classified] at kept
  simp only [unclassified] at plain
  obtain ⟨rfl, told⟩ := kept
  obtain ⟨rfl, untold⟩ := plain
  exact ⟨fun source member => ⟨reached source member, failed source member⟩, result, told,
    missing, untold⟩

end Sqlwright
