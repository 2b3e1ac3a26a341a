import Mathlib
import Sqlwright.Proofs.Adapter.Failure
import Sqlwright.Proofs.Identifier.Alias
import Sqlwright.Proofs.Query.Projection

/-! What an aggregate sends: the statement of the query with another projection, which is the
computed item and the group fields. The item is escaped like any field. It is taken as it stands
if the mark before it is the one that the rules skip, and the rules quote anything at all;
otherwise the mark stays, and with other marks the parts of the item are escaped again. -/
namespace Sqlwright
open Identifier (Rules Form)

namespace Session

def computed (mode field : String) : String := mode ++ "(" ++ field ++ ") AS result"

theorem aggregateMarked (mode field : String) :
    (aggregateField mode field).toList = '^' :: (computed mode field).toList := by
  simp [aggregateField, computed]

theorem aggregateAliased (mode field : String) :
    Identifier.Aliased (aggregateField mode field).toList :=
  ⟨('^' :: mode.toList ++ '(' :: field.toList ++ [')']), 'A', 'S', "result".toList,
    by simp [aggregateField], .inr rfl, .inr rfl⟩

structure Computes (rules : Rules) (mode field item : String) : Prop where
  skipped : rules.Quotes → rules.bypass = '^' → item = computed mode field
  unquoted : ¬ rules.Quotes → item = "^" ++ computed mode field
  parted : rules.Quotes → rules.bypass ≠ '^' → ∃ source label : String,
    Identifier.aliasCut? (aggregateField mode field).toList =
      some (source.toList, label.toList) ∧
    item = rules.escape source ++ " AS " ++ rules.escape label

theorem itemComputes (rules : Rules) (mode field : String) :
    Computes rules mode field (rules.escape (aggregateField mode field)) := by
  refine ⟨fun quotes mark => ?_, fun unquoted => ?_, fun quotes mark => ?_⟩
  · have some : (computed mode field).toList ≠ [] := by simp [computed]
    rw [Rules.escape, aggregateMarked, ← mark, Rules.escapeMarked quotes some,
      String.ofList_toList]
  · rw [Rules.escape, Rules.escapeUnquoted unquoted, String.ofList_toList]
    simp [aggregateField, computed, String.append_assoc]
  · have unmarked : (aggregateField mode field).toList.head? ≠ some rules.bypass := by
      rw [aggregateMarked]
      exact fun same => mark (Option.some.inj same).symm
    have aliased : Identifier.aliasCut? (aggregateField mode field).toList ≠ none :=
      fun none => Identifier.aliasCutNone.mp none (aggregateAliased mode field)
    obtain ⟨⟨source, label⟩, cut⟩ := Option.ne_none_iff_exists'.mp aliased
    refine ⟨String.ofList source, String.ofList label, ?_, ?_⟩
    · rw [cut, String.toList_ofList, String.toList_ofList]
    · rw [Rules.escape, Rules.escapeAliased quotes unmarked cut, String.ofList_append,
        String.ofList_append, Rules.escape, Rules.escape, String.toList_ofList,
        String.toList_ofList]
      rfl

variable {σ : Type}

theorem reportState {α : Type} (session : Session σ) (result : Except DriverError α) :
    (session.report result).2.state = session.state := by
  obtain ⟨reports, _, told⟩ := session.reportTells result
  rw [told]
  rfl

theorem fetchState (session : Session σ) (statement : Statement) :
    (session.fetch statement).2.state = (session.connection.fetch statement session.state).2 :=
  reportState _ _

theorem decodedSession {α : Type} (session : Session σ) (result : Except Error α) :
    (session.decoded result).2 = session := by
  cases result <;> rfl

theorem aggregateState (session : Session σ) (query : Query) (mode field : String) :
    (session.aggregate query mode field).2.state =
      (session.connection.fetch (session.aggregateStatement query mode field) session.state).2 := by
  have queried : (session.aggregate query mode field).2 =
      (Session.query { session with dialect := (session.dialect.escape field).2 }
        (session.aggregateQuery query mode field)).2 := by
    simp only [aggregate, aggregateQuery]
    split
    · rename_i answered
      rw [answered]
    · rename_i answered
      rw [answered]
      exact decodedSession ..
  rw [queried]
  exact fetchState _ _

theorem aggregateWritten (config : Config) (mapper : ColumnMapper) (history : List Command)
    (connection : Connection σ) (state : σ) (journal : List JournalEntry) (query : Query)
    (mode field : String) :
    let rules := Rules.ofConfig config
    let session : Session σ :=
      ⟨(Dialect.new config mapper).after history, connection, state, journal⟩
    session.aggregateStatement query mode field =
      Statement.empty.extended config (query.select
        (aggregateField mode (rules.escape field) :: query.groupFields)).statementPieces := by
  intro rules session
  have sound : session.dialect.Sound := Dialect.afterSound (Dialect.soundNew config mapper) history
  have same : session.dialect.config = config := Dialect.afterConfig (.new config mapper) history
  have escaped : (session.dialect.escape field).1 = rules.escape field := by
    rw [Dialect.escape, (Identifier.Cache.escapeSound sound _ field).1, same]
  have after : (session.dialect.escape field).2 =
      (Dialect.new config mapper).after (history ++ [.escape field]) := by
    rw [Dialect.after, List.foldl_append]
    rfl
  rw [aggregateStatement, aggregateQuery, escaped, after, Dialect.query, Dialect.writeAfter]

end Session

theorem aggregateProjects {σ : Type} (config : Config) (mapper : ColumnMapper)
    (history : List Command) (connection : Connection σ) (state : σ)
    (journal : List JournalEntry) {query : Query} (structured : query.statement? = none)
    (mode field : String) :
    let rules := Rules.ofConfig config
    let dialect := (Dialect.new config mapper).after history
    let session : Session σ := ⟨dialect, connection, state, journal⟩
    let item := rules.escape (Session.aggregateField mode (rules.escape field))
    Session.Computes rules mode (rules.escape field) item ∧
    ∃ rest arguments,
      (∀ fields, (dialect.query (query.select fields)).1 =
        ⟨query.headText ++ Query.projectionText (fields.map rules.escape) ++ rest, arguments⟩) ∧
      let statement : Statement := ⟨query.headText ++
        Query.projectionText (item :: query.groupFields.map rules.escape) ++ rest, arguments⟩
      session.Relays false ⟨.fetch, statement⟩ (session.aggregate query mode field) ∧
      (session.aggregate query mode field).2.state = (connection.fetch statement state).2 := by
  intro rules dialect session item
  obtain ⟨rest, arguments, projected⟩ := Query.projected config structured
  refine ⟨Session.itemComputes rules mode (rules.escape field), rest, arguments,
    fun fields => ?_, ?_⟩
  · rw [Dialect.query, Dialect.writeAfter, projected]
  · have sent : session.aggregateStatement query mode field = _ :=
      (Session.aggregateWritten config mapper history connection state journal query mode
        field).trans (projected _)
    intro statement
    have same : session.aggregateStatement query mode field = statement := sent
    rw [← same]
    exact ⟨session.aggregateRelays query mode field, session.aggregateState query mode field⟩

theorem loansCounted :
    let query := ((Query.ofTable "loan").groupBy ["member"]).restrict
      (.compare "due" .less (.value (.int 5)))
    let session := Session.start .standard Script.connection ⟨[], []⟩
    query.statement? = none ∧
    ∃ rest arguments,
      (Dialect.standard.query query).1 = ⟨"SELECT *" ++ rest, arguments⟩ ∧
      session.Relays false
        ⟨.fetch, ⟨"SELECT COUNT([id]) AS result, [member]" ++ rest, arguments⟩⟩
        (session.aggregate query "COUNT" "id") := by
  intro query session
  have structured : query.statement? = none := rfl
  obtain ⟨computes, rest, arguments, projected, relays, -⟩ := aggregateProjects {}
    Column.nativeType [] Script.connection ⟨[], []⟩ [] structured "COUNT" "id"
  have item := computes.skipped (by decide) rfl
  refine ⟨structured, rest, arguments, ?_, ?_⟩
  · exact projected []
  · rw [item] at relays
    have items : query.headText ++ Query.projectionText
        (Session.computed "COUNT" ((Rules.ofConfig {}).escape "id") ::
          query.groupFields.map (Rules.ofConfig {}).escape) =
        "SELECT COUNT([id]) AS result, [member]" := by cbv
    rw [items] at relays
    exact relays

theorem markSent :
    let sent := fun config : Config =>
      ((Session.start (.new config Column.nativeType) Script.connection ⟨[], []⟩).aggregate
        (Query.ofTable "t") "COUNT" "id").2.state.received
    sent { bypass := '!' } =
      [⟨.fetch, ⟨"SELECT ^COUNT([[id]]]) AS [result] FROM [t];", []⟩⟩] ∧
    sent { quoting := { opening := "", closing := "" } } =
      [⟨.fetch, ⟨"SELECT ^COUNT(id) AS result FROM t;", []⟩⟩] := by
  refine ⟨?_, ?_⟩ <;> cbv

end Sqlwright
