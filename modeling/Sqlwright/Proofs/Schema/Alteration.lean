import Mathlib
import Sqlwright.Proofs.Adapter.Journal
import Sqlwright.Proofs.Dialect.History
import Sqlwright.Proofs.Schema.Obstacle
import Sqlwright.Proofs.Statement.Mode

/-! Alterations of a table. Its definitions are written one after the other, each as if it were
alone, and nothing comes of any of them if one is not supported. -/
namespace Sqlwright

namespace Statement

theorem writtenAppend (config : Config) (first second : List Piece) :
    (empty.extended config.inlined (first ++ second)).sql =
      (empty.extended config.inlined first).sql ++
        (empty.extended config.inlined second).sql := by
  have restart : ∀ count, Token.joined config.inlined
      (Piece.allTokens config.inlined count second) =
        Token.joined config.inlined (Piece.allTokens config.inlined 0 second) := by
    intro count
    rw [Piece.spelledAllTokens config count 0, Piece.spelledAllTokens config 0 0]
  simp only [extendedEmpty, Piece.allTokensAppend, Token.joinedAppend, restart]

end Statement

namespace Sketch

def text (config : Config) (sketch : Sketch) : Except Obstacle String :=
  (sketch.outcome config).map Statement.sql

theorem textStopped {config : Config} {sketch : Sketch} {obstacle : Obstacle} :
    sketch.text config = .error obstacle ↔ sketch.obstacle? = some obstacle := by
  cases stop : sketch.obstacle? <;> simp [text, outcome, stop, Except.map]

theorem textAppend (config : Config) (first second : Sketch) :
    (first ++ second).text config = do
      let one ← first.text config
      let two ← second.text config
      return one ++ two := by
  obtain ⟨pieces, obstacle?⟩ := first
  cases obstacle? with
  | some obstacle => rfl
  | none =>
    obtain ⟨more, next?⟩ := second
    cases next? with
    | some obstacle => rfl
    | none => exact congrArg Except.ok (Statement.writtenAppend config pieces more)

theorem textOpen (config : Config) {sketch : Sketch} (unstopped : sketch.obstacle? = none) :
    ∃ text, sketch.text config = .ok text := by
  simp [text, outcome, unstopped, Except.map]

theorem textAll (config : Config) {sketches : List Sketch}
    (unstopped : ∀ sketch ∈ sketches, sketch.obstacle? = none) :
    ∃ texts, List.Forall₂ (fun sketch text => sketch.text config = .ok text) sketches texts ∧
      (all sketches).text config = .ok (String.join texts) := by
  induction sketches with
  | nil => exact ⟨[], .nil, rfl⟩
  | cons sketch rest ih =>
    obtain ⟨here, later⟩ := List.forall_mem_cons.mp unstopped
    obtain ⟨text, written⟩ := textOpen config here
    obtain ⟨texts, each, whole⟩ := ih later
    refine ⟨text :: texts, .cons written each, ?_⟩
    have both : all (sketch :: rest) = sketch ++ all rest := rfl
    rw [both, textAppend, written, whole, String.join_cons]
    rfl

end Sketch

def Dialect.tableText (dialect : Dialect) (table : Table) : Except Obstacle String :=
  (dialect.table table).1.map Statement.sql

theorem Dialect.tableTextAfter (config : Config) (mapper : ColumnMapper)
    (history : List Command) (table : Table) :
    ((new config mapper).after history).tableText table = (table.sketch mapper).text config := by
  rw [tableText, Dialect.table, writeSchemaAfter, afterMapper]
  rfl

namespace Session

structure Refuses {σ : Type} (session : Session σ) (table : Table) (reason : Rejection) :
    Prop where
  result : (session.applyTable table).1 = .error (.error (.unsupported reason))
  journal : ∃ event : Event, event.level = .trace ∧ event.message? = some reason.message ∧
    (session.applyTable table).2.journal = session.journal ++ [.told event]
  state : (session.applyTable table).2.state = session.state

theorem refusesTable {σ : Type} {session : Session σ} {table : Table} {reason : Rejection}
    (stopped : (session.dialect.table table).1 = .error (.rejected reason)) :
    session.Refuses table reason := by
  have applied : session.applyTable table = _ := applyStopped stopped
  refine ⟨?_, ⟨.rejected reason, rfl, rfl, ?_⟩, ?_⟩ <;> rw [applied] <;> rfl

end Session

theorem Dialect.tableTextStopped {dialect : Dialect} {table : Table} {obstacle : Obstacle} :
    dialect.tableText table = .error obstacle ↔ (dialect.table table).1 = .error obstacle := by
  rw [tableText]
  cases (dialect.table table).1 <;> simp [Except.map]

namespace Table

variable {config : Config} {mapper : ColumnMapper} {table : Table}

theorem textRejected (altered : table.operation = .alter) (timeless : table.Timeless)
    {reason : Rejection} : (table.sketch mapper).text config = .error (.rejected reason) ↔
      table.definitions.findSome? (Definition.rejection? table.name) = some reason := by
  rw [Sketch.textStopped, obstacleAltered mapper altered (timeless.unstopped mapper),
    Option.map_eq_some_iff]
  simp only [Obstacle.rejected.injEq, exists_eq_right]

theorem sketchDefined (altered : table.operation = .alter) (definitions : List Definition) :
    Table.sketch mapper { table with definitions } =
      .all (definitions.map (·.alterSketch mapper table)) := by
  simp only [sketch, altered]
  rfl

theorem sketchAlone (altered : table.operation = .alter) (definition : Definition) :
    Table.sketch mapper { table with definitions := [definition] } =
      definition.alterSketch mapper table :=
  (sketchDefined altered [definition]).trans (Sketch.appendEmpty _)

theorem textSupported (altered : table.operation = .alter) (timeless : table.Timeless)
    (supported : ∀ definition ∈ table.definitions, ¬ definition.Unsupported) :
    ∃ texts,
      List.Forall₂ (fun definition text =>
        (Table.sketch mapper { table with definitions := [definition] }).text config = .ok text)
        table.definitions texts ∧
      (table.sketch mapper).text config = .ok (String.join texts) := by
  have unstopped : ∀ sketch ∈ table.definitions.map (·.alterSketch mapper table),
      sketch.obstacle? = none := by
    intro sketch member
    obtain ⟨definition, inside, same⟩ := List.mem_map.mp member
    have unrejected : definition.rejection? table.name = none :=
      Option.not_isSome_iff_eq_none.mp fun rejected =>
        supported definition inside (Definition.rejectionSome.mp rejected)
    have unstopped := (timeless.unstopped mapper).definition inside
    rw [← same, definition.obstacleAlter mapper (altered ▸ unstopped), unrejected]
    rfl
  obtain ⟨texts, each, whole⟩ := Sketch.textAll config unstopped
  refine ⟨texts, ?_, ?_⟩
  · refine (List.forall₂_map_left_iff.mp each).imp fun definition text alone => ?_
    rw [sketchAlone altered]
    exact alone
  · rw [← sketchDefined altered] at whole
    exact whole

theorem textJoined (altered : table.operation = .alter) (first second : List Definition) :
    (Table.sketch mapper { table with definitions := first ++ second }).text config = do
      let one ← (Table.sketch mapper { table with definitions := first }).text config
      let two ← (Table.sketch mapper { table with definitions := second }).text config
      return one ++ two := by
  rw [sketchDefined altered, sketchDefined altered, sketchDefined altered, List.map_append,
    Sketch.allAppend, Sketch.textAppend]

end Table

theorem alterationsCompose (config : Config) (mapper : ColumnMapper) (history : List Command)
    {table : Table} (altered : table.operation = .alter) (timeless : table.Timeless) :
    let dialect := (Dialect.new config mapper).after history
    let written := fun definitions => dialect.tableText { table with definitions }
    ((∃ reason, written table.definitions = .error (.rejected reason)) ↔
      ∃ definition ∈ table.definitions, definition.Unsupported) ∧
    (∀ reason, written table.definitions = .error (.rejected reason) →
      table.definitions.findSome? (Definition.rejection? table.name) = some reason ∧
      ∀ {σ : Type} (session : Session σ), session.dialect = dialect →
        session.Refuses table reason) ∧
    ((∀ definition ∈ table.definitions, ¬ definition.Unsupported) →
      ∃ texts,
        List.Forall₂ (fun definition text => written [definition] = .ok text)
          table.definitions texts ∧
        written table.definitions = .ok (String.join texts)) ∧
    ∀ first second, written (first ++ second) = do
      let one ← written first
      let two ← written second
      return one ++ two := by
  intro dialect written
  have sketched : ∀ definitions, written definitions =
      (Table.sketch mapper { table with definitions }).text config :=
    fun definitions => Dialect.tableTextAfter config mapper history _
  simp only [sketched]
  refine ⟨?_, ?_, Table.textSupported altered timeless, Table.textJoined altered⟩
  · rw [← Table.unsupportedFirst]
    exact exists_congr fun reason => Table.textRejected altered timeless
  · intro reason stopped
    refine ⟨(Table.textRejected altered timeless).mp stopped, fun session same => ?_⟩
    apply Session.refusesTable
    rw [same, ← Dialect.tableTextStopped]
    exact (sketched table.definitions).trans stopped

def Column.altering (name : String) (operation : Operation) : Column where
  name := name
  kind := .int
  operation := operation
  rename := "number"
  unique := false
  required := true
  primary := false
  limit := 0
  precision := 0
  scale := 0
  default? := some (.int 1)
  options := ""

def Table.season (definitions : List Definition) : Table where
  operation := .alter
  name := "season"
  rename := ""
  optional := false
  options := "ONLINE"
  definitions := definitions

theorem seasonAlterationsCompose :
    let dialect := Dialect.new {} Column.nativeType
    let added := Definition.column (.altering "part" .create)
    let renamed := Definition.column (.altering "no" .rename)
    let dropped := Definition.key ⟨.unique, .drop, "uq", ["no"], "", "", none⟩
    let changed := Definition.column (.altering "title" .alter)
    let table := Table.season [added, renamed, dropped, changed]
    let session := Session.start dialect Script.connection ⟨[], []⟩
    table.operation = .alter ∧ table.Timeless ∧ dropped.Unsupported ∧
    session.dialect = dialect ∧
    session.Refuses table (.keyOperation .drop "uq" "season") ∧
    ¬ added.Unsupported ∧ ¬ renamed.Unsupported ∧
    dialect.tableText (.season [added, renamed]) = .ok
      ("ALTER TABLE [season] ADD [part] INT NOT NULL DEFAULT 1 ONLINE;" ++
        "EXEC sp_rename '[season].[no]', [number], 'COLUMN';") := by
  intro dialect added renamed dropped changed table session
  have timeless : table.Timeless := by decide
  obtain ⟨some?, first, -, joined⟩ :=
    @alterationsCompose {} Column.nativeType [] table rfl timeless
  have unsupported : dropped.Unsupported := by decide
  refine ⟨rfl, timeless, unsupported, rfl, ?_, by decide, by decide, ?_⟩
  · obtain ⟨reason, stopped⟩ := some?.mpr ⟨dropped, by simp [table, Table.season], unsupported⟩
    obtain ⟨found, refused⟩ := first reason stopped
    cases found
    exact refused session rfl
  · have one : dialect.tableText (.season [added]) =
        .ok "ALTER TABLE [season] ADD [part] INT NOT NULL DEFAULT 1 ONLINE;" := by cbv
    have two : dialect.tableText (.season [renamed]) =
        .ok "EXEC sp_rename '[season].[no]', [number], 'COLUMN';" := by cbv
    refine (joined [added] [renamed]).trans ?_
    show (do
      let one ← dialect.tableText (.season [added])
      let two ← dialect.tableText (.season [renamed])
      return one ++ two) = _
    rw [one, two]
    rfl

end Sqlwright
