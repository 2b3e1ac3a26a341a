import Mathlib
import Sqlwright.Adapter.Call
import Sqlwright.Proofs.Adapter.Journal
import Sqlwright.Proofs.Schema.Obstacle

/-! What a session tells against what its connection receives. A call sends one statement, just
after the event that announces it, or none; whatever else it tells is a warning about what came
back, or the reason why nothing was sent. Over any calls the announcements are the statements
received, one for one. -/
namespace Sqlwright

def Sent.announcement (sent : Sent) : Event :=
  .sending sent.channel sent.statement.sql sent.statement.arguments.length

def Sent.traffic (sent : Sent) : List JournalEntry := [.told sent.announcement, .sent sent]

def JournalEntry.isTraffic : JournalEntry → Bool
  | .told event => event.level == .debug
  | .sent _ => true

namespace Call

def Timeless : Call → Prop
  | .applyTable table => table.Timeless
  | _ => True

def ChangesSchema : Call → Prop
  | .applyTable _ | .applyIndex _ => True
  | _ => False

def Unsent : Call → Prop
  | .insertAll i => i.rows = []
  | .update u => ∀ column ∈ u.changes.keys, column = u.primary
  | .applyTable t => t.Unsupported
  | .applyIndex i => i.Unsupported
  | _ => False

end Call

theorem Update.unassigned {update : Update} :
    (∀ column ∈ update.changes.keys, column = update.primary) ↔
      update.changes.hasAssignments update.primary = false := by
  simp [Changes.hasAssignments]

namespace Session

/-- The statement sent, if any, reaches the connection, which uses up one answer for it. -/
structure Passes (before after : Session Script) (sent? : Option Sent) : Prop where
  connection : after.connection = before.connection
  state : after.state = sent?.elim before.state fun sent => (before.state.next sent).2
  journal : ∃ reports : List Event,
    (∀ event ∈ reports, event.level = if sent?.isSome then .warn else .trace) ∧
    after.journal = before.journal ++ sent?.elim [] Sent.traffic ++ reports.map .told

variable {session before after : Session Script}

theorem passesNone : session.Passes session none :=
  ⟨rfl, rfl, [], by simp, by simp⟩

theorem Passes.tell {sent : Sent} {event : Event} (passes : before.Passes after (some sent))
    (warns : event.level = .warn) : before.Passes (after.tell event) (some sent) := by
  obtain ⟨reports, warnings, journal⟩ := passes.journal
  refine ⟨passes.connection, passes.state, reports ++ [event], ?_, ?_⟩
  · intro told member
    rcases List.mem_append.mp member with old | new
    · exact warnings told old
    · rw [List.mem_singleton.mp new, warns]
      rfl
  · rw [Session.tell, record, journal, List.map_append, ← List.append_assoc]
    rfl

theorem announcePasses {α : Type} (session : Session Script) (channel : Channel)
    (statement : Statement) (result : Except DriverError α) :
    let state := (session.state.next ⟨channel, statement⟩).2
    session.Passes (Session.report { session.announce channel statement with state } result).2
      (some ⟨channel, statement⟩) := by
  intro state
  obtain ⟨reports, warnings, told⟩ :=
    reportTells { session.announce channel statement with state } result
  rw [told]
  exact ⟨rfl, rfl, reports, warnings, rfl⟩

def Sends (before after : Session Script) : Prop := ∃ sent, before.Passes after (some sent)

theorem Sends.written {dialect : Dialect} (sends : Sends { before with dialect } after) :
    before.Sends after := by
  obtain ⟨sent, passes⟩ := sends
  exact ⟨sent, passes.connection, passes.state, passes.journal⟩

theorem Sends.passes (sends : before.Sends after) {unsent : Prop} (never : ¬ unsent) :
    ∃ sent?, before.Passes after sent? ∧ (sent? = none ↔ unsent) := by
  obtain ⟨sent, passes⟩ := sends
  exact ⟨some sent, passes, by simp [never]⟩

theorem applyUnsupported {sketch : Sketch} {rejection? : Option Rejection}
    (stops : sketch.obstacle? = rejection?.map .rejected) :
    rejection?.isSome ↔
      ∃ reason, (session.apply sketch).1 = .error (.error (.unsupported reason)) := by
  cases rejection? with
  | none =>
    obtain ⟨statement, written⟩ := session.dialect.writeSchemaOpen stops
    refine iff_of_false Bool.false_ne_true fun ⟨reason, unsupported⟩ => ?_
    rw [applyWritten written, Outcome.mapFailed] at unsupported
    obtain ⟨source, cause⟩ := executeSourced unsupported
    cases cause
  | some reason =>
    rw [applyStopped (session.dialect.writeSchemaStopped stops)]
    exact iff_of_true rfl ⟨reason, rfl⟩

theorem runUnsupported {call : Call} (changes : call.ChangesSchema) (timeless : call.Timeless) :
    call.Unsent ↔ ∃ reason, (session.run call).1 = .error (.error (.unsupported reason)) := by
  cases call with
  | applyTable t =>
    simp only [run, Outcome.mapFailed]
    exact Table.rejectionSome.symm.trans
      (applyUnsupported (t.obstacleSketch _ (timeless.unstopped session.dialect.mapper)))
  | applyIndex i =>
    simp only [run, Outcome.mapFailed]
    exact Index.rejectionSome.symm.trans (applyUnsupported i.obstacleSketch)
  | _ => cases changes

section Operations

variable (session : Session Script) (scripted : session.connection = Script.connection)
include scripted

theorem executeSends (statement : Statement) : session.Sends (session.execute statement).2 := by
  obtain ⟨dialect, connection, state, journal⟩ := session
  cases scripted
  exact ⟨_, announcePasses _ .execute statement _⟩

theorem fetchSends (statement : Statement) : session.Sends (session.fetch statement).2 := by
  obtain ⟨dialect, connection, state, journal⟩ := session
  cases scripted
  exact ⟨_, announcePasses _ .fetch statement _⟩

theorem writtenExecutes (pieces : List Piece) :
    session.Sends ((session.write pieces).2.execute (session.write pieces).1).2 :=
  ((session.write pieces).2.executeSends scripted _).written

theorem writtenFetches (pieces : List Piece) :
    ∃ answer later, (session.write pieces).2.fetch (session.write pieces).1 = (answer, later) ∧
      session.Sends later :=
  ⟨_, _, rfl, ((session.write pieces).2.fetchSends scripted _).written⟩

theorem querySends (query : Query) : session.Sends (session.query query).2 := by
  obtain ⟨answer, later, answered, sends⟩ := session.writtenFetches scripted query.statementPieces
  have same : session.query query = (answer, later) := answered
  rw [same]
  exact sends

theorem aggregateSends (query : Query) (mode field : String) :
    session.Sends (session.aggregate query mode field).2 := by
  obtain ⟨escaped, dialect, both⟩ : ∃ escaped dialect,
      session.dialect.escape field = (escaped, dialect) := ⟨_, _, rfl⟩
  let total := query.select (aggregateField mode escaped :: query.groupFields)
  obtain ⟨answer, later, answered, sends⟩ : ∃ answer later,
      Session.query { session with dialect } total = (answer, later) ∧
        Sends { session with dialect } later :=
    ⟨_, _, rfl, querySends { session with dialect } scripted total⟩
  simp only [aggregate, both]
  rw [answered]
  cases answer with
  | error failure => exact sends.written
  | ok rows =>
    have kept : (later.decoded (leading rows)).2 = later := by
      cases leading rows <;> rfl
    rw [kept]
    exact sends.written

theorem insertSends (insert : Insert) : session.Sends (session.insert insert).2 := by
  simp only [Session.insert]
  split
  · exact session.writtenExecutes scripted insert.pieces
  · obtain ⟨answer, later, answered, sent, passes⟩ :=
      session.writtenFetches scripted insert.pieces
    rw [answered]
    cases answer with
    | error failure => exact ⟨sent, passes⟩
    | ok rows =>
      dsimp only
      split
      · exact ⟨sent, passes⟩
      · split
        · exact ⟨sent, passes.tell rfl⟩
        · exact ⟨sent, passes⟩

theorem insertAllSends {insert : BulkInsert} (filled : insert.rows ≠ []) :
    session.Sends (session.insertAll insert).2 := by
  simp only [Session.insertAll]
  rw [if_neg (by simpa using filled)]
  split
  · exact session.writtenExecutes scripted insert.pieces
  · obtain ⟨answer, later, answered, sent, passes⟩ :=
      session.writtenFetches scripted insert.pieces
    rw [answered]
    cases answer with
    | error failure => exact ⟨sent, passes⟩
    | ok rows =>
      dsimp only
      split
      · exact ⟨sent, passes⟩
      · exact ⟨sent, passes.tell rfl⟩
      · exact ⟨sent, passes⟩

theorem updateSends {update : Update}
    (assigns : update.changes.hasAssignments update.primary = true) :
    session.Sends (session.update update).2 := by
  unfold Session.update
  rw [if_pos assigns]
  exact session.writtenExecutes scripted update.pieces

theorem applyPasses {sketch : Sketch} {rejection? : Option Rejection}
    (stops : sketch.obstacle? = rejection?.map .rejected) :
    ∃ sent?, session.Passes (session.apply sketch).2 sent? ∧
      (sent? = none ↔ rejection?.isSome) := by
  cases rejection? with
  | none =>
    obtain ⟨statement, written⟩ := session.dialect.writeSchemaOpen stops
    rw [applyWritten written]
    let later := { session with dialect := (session.dialect.writeSchema sketch).2 }
    exact (later.executeSends scripted _).written.passes Bool.false_ne_true
  | some reason =>
    rw [applyStopped (session.dialect.writeSchemaStopped stops)]
    refine ⟨none, ⟨rfl, rfl, [.rejected reason], by simp [Event.level], ?_⟩, by simp⟩
    simp [record, Obstacle.events]

theorem runPasses {call : Call} (timeless : call.Timeless) :
    ∃ sent?, session.Passes (session.run call).2 sent? ∧ (sent? = none ↔ call.Unsent) := by
  cases call with
  | query q => exact (session.querySends scripted q).passes not_false
  | aggregate q mode field => exact (session.aggregateSends scripted q mode field).passes not_false
  | insert i => exact (session.insertSends scripted i).passes not_false
  | insertAll i =>
    by_cases empty : i.rows = []
    · have same : session.insertAll i = (.ok [], session) := by simp [insertAll, empty]
      refine ⟨none, ?_, by simp [Call.Unsent, empty]⟩
      show session.Passes (session.insertAll i).2 none
      rw [same]
      exact passesNone
    · exact (session.insertAllSends scripted empty).passes empty
  | update u =>
    cases assigns : u.changes.hasAssignments u.primary with
    | false =>
      have same : (session.update u).2 = session := by simp [Session.update, assigns]
      refine ⟨none, ?_, by simp [Call.Unsent, Update.unassigned, assigns]⟩
      show session.Passes (session.update u).2 none
      rw [same]
      exact passesNone
    | true =>
      refine (session.updateSends scripted assigns).passes ?_
      simp [Call.Unsent, Update.unassigned, assigns]
  | delete d => exact (session.writtenExecutes scripted d.pieces).passes not_false
  | execute statement => exact (session.executeSends scripted statement).passes not_false
  | applyTable t =>
    obtain ⟨sent?, passes, none?⟩ :=
      session.applyPasses scripted (t.obstacleSketch _ (timeless.unstopped session.dialect.mapper))
    exact ⟨sent?, passes, none?.trans Table.rejectionSome⟩
  | applyIndex i =>
    obtain ⟨sent?, passes, none?⟩ := session.applyPasses scripted i.obstacleSketch
    exact ⟨sent?, passes, none?.trans Index.rejectionSome⟩

end Operations

structure Mirrors (session : Session Script) : Prop where
  connection : session.connection = Script.connection
  traffic : session.journal.filter JournalEntry.isTraffic =
    session.state.received.flatMap Sent.traffic

theorem Passes.mirrors {sent? : Option Sent} (passes : before.Passes after sent?)
    (mirrors : before.Mirrors) : after.Mirrors := by
  obtain ⟨reports, levels, journal⟩ := passes.journal
  have untold : (reports.map JournalEntry.told).filter JournalEntry.isTraffic = [] := by
    rw [List.filter_map, List.map_eq_nil_iff, List.filter_eq_nil_iff]
    intro event member
    have level := levels event member
    cases sent? <;> simp [JournalEntry.isTraffic, level]
  refine ⟨passes.connection.trans mirrors.connection, ?_⟩
  rw [journal, List.filter_append, List.filter_append, untold, mirrors.traffic, passes.state]
  cases sent? with
  | none => simp
  | some sent =>
    have kept : sent.traffic.filter JournalEntry.isTraffic = sent.traffic := rfl
    simp [kept, Script.next]

theorem runAllMirrors {calls : List Call} (timeless : ∀ call ∈ calls, call.Timeless)
    (mirrors : session.Mirrors) : (session.runAll calls).2.Mirrors := by
  induction calls generalizing session with
  | nil => exact mirrors
  | cons call rest ih =>
    obtain ⟨here, later⟩ := List.forall_mem_cons.mp timeless
    obtain ⟨sent?, passes, -⟩ := session.runPasses mirrors.connection here
    exact ih later (passes.mirrors mirrors)

theorem Mirrors.announced (mirrors : session.Mirrors) :
    session.events.filter (·.level == .debug) =
      session.state.received.map Sent.announcement := by
  let told? : JournalEntry → Option Event
    | .told event => some event
    | .sent _ => none
  have events : session.events.filter (·.level == .debug) =
      (session.journal.filter JournalEntry.isTraffic).filterMap told? := by
    rw [Session.events, List.filter_filterMap, List.filterMap_filter]
    congr 1
    funext entry
    cases entry <;> rfl
  rw [events, mirrors.traffic, List.filterMap_flatMap]
  exact List.map_eq_flatMap.symm

end Session

theorem journalMirrorsConnection (dialect : Dialect) (answers : List Answer) (calls : List Call)
    (timeless : ∀ call ∈ calls, call.Timeless) :
    let start := Session.start dialect Script.connection ⟨answers, []⟩
    let final := (start.runAll calls).2
    final.events.filter (·.level == .debug) = final.state.received.map Sent.announcement ∧
    final.journal.filter JournalEntry.isTraffic = final.state.received.flatMap Sent.traffic ∧
    ∀ before call after, calls = before ++ call :: after →
      let here := (start.runAll before).2
      (∃ sent?, here.Passes (here.run call).2 sent? ∧ (sent? = none ↔ call.Unsent)) ∧
      (call.ChangesSchema → (call.Unsent ↔
        ∃ reason, (here.run call).1 = .error (.error (.unsupported reason)))) := by
  intro start final
  have begins : start.Mirrors := ⟨rfl, rfl⟩
  have mirrors : final.Mirrors := Session.runAllMirrors timeless begins
  refine ⟨mirrors.announced, mirrors.traffic, ?_⟩
  intro before call after split here
  have each : ∀ earlier ∈ before, earlier.Timeless := fun earlier member =>
    timeless earlier (split ▸ List.mem_append_left _ member)
  have reached : here.Mirrors := Session.runAllMirrors each begins
  have member : call ∈ calls := by simp [split]
  exact ⟨here.runPasses reached.connection (timeless call member),
    fun changes => Session.runUnsupported changes (timeless call member)⟩

theorem seatingMirrored :
    let added := Call.insert ⟨"seat", "id", .ofList [("row", .set (.int 2))]⟩
    let kept := Call.update ⟨"seat", "id", .ofList [("id", .set (.int 1))], .empty⟩
    let dropped : Table := ⟨.alter, "seat", "", false, "",
      [.raw "ADD place INT", .key ⟨.unique, .drop, "uq_seat", ["row"], "", "", none⟩]⟩
    let calls := [added, kept, .applyTable dropped, .insertAll ⟨"seat", "", ["row"], []⟩,
      .execute ⟨"EXEC seat_all", [.int 2]⟩]
    let start := Session.start (Dialect.new {} Column.nativeType) Script.connection ⟨[], []⟩
    let final := (start.runAll calls).2
    let here := (start.runAll [added, kept]).2
    (∀ call ∈ calls, call.Timeless) ∧ dropped.Unsupported ∧
    final.events.filter (·.level == .debug) =
      [.sending .fetch "INSERT INTO [seat] ([row]) OUTPUT [INSERTED].[id] VALUES (@p1);" 1,
        .sending .execute "EXEC seat_all" 1] ∧
    final.events.map Event.level = [.debug, .warn, .trace, .debug] ∧
    here.Passes (here.run (.applyTable dropped)).2 none := by
  intro added kept dropped calls start final here
  have timeless : ∀ call ∈ calls, call.Timeless := by
    have each : dropped.Timeless := by decide
    simp [calls, added, kept, Call.Timeless, each]
  have unsupported : dropped.Unsupported := ⟨rfl, by decide⟩
  obtain ⟨announced, -, each⟩ := journalMirrorsConnection _ _ calls timeless
  obtain ⟨⟨sent?, passes, unsent⟩, -⟩ := each [added, kept] (.applyTable dropped) _ rfl
  rw [unsent.mpr unsupported] at passes
  refine ⟨timeless, unsupported, announced.trans ?_, ?_, passes⟩ <;> cbv

end Sqlwright
