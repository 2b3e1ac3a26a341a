import Mathlib
import Sqlwright.Proofs.Dialect.Fresh
import Sqlwright.Proofs.Identifier.Position
import Sqlwright.Proofs.Schema.Clash

/-! What a dialect returns for a command. Nothing fails while a field is taken apart, so there is a
statement for every command on rows; for a change of the schema there is one or the reason why it is
refused, unless a default date or time clashes with the type of its column. -/
namespace Sqlwright
open Identifier (Form)

def Returned (rejection? : Option Rejection) (result : Except Obstacle Statement) : Prop :=
  match rejection? with
  | some reason => result = .error (.rejected reason)
  | none => ∃ statement, result = .ok statement

theorem Sketch.returned (config : Config) {sketch : Sketch} {rejection? : Option Rejection}
    (stops : sketch.obstacle? = rejection?.map .rejected) :
    Returned rejection? (sketch.outcome config) := by
  cases rejection? with
  | some reason => simp [Returned, outcome, stops]
  | none => exact ⟨_, outcomeOpen stops⟩

namespace Command

def rejection? : Command → Option Rejection
  | .table t => t.rejection?
  | .index i => i.rejection?
  | _ => none

def Suited : Command → Prop
  | .table t => ∀ column ∈ t.columns, ¬ column.Clashes
  | _ => True

theorem returned (config : Config) {command : Command} (suited : command.Suited) :
    Returned command.rejection? (command.outcome config Column.nativeType) := by
  cases command with
  | table t =>
    have unstopped : t.Unstopped Column.nativeType :=
      fun column written => Column.nativeUnstopped (suited column written)
    exact Sketch.returned config (t.obstacleSketch _ unstopped)
  | index i => exact Sketch.returned config i.obstacleSketch
  | _ => exact ⟨_, rfl⟩

end Command

theorem Dialect.returnAfter (config : Config) (mapper : ColumnMapper) (history : List Command)
    (command : Command) : (((Dialect.new config mapper).after history).run command).1 =
      command.outcome config mapper := by
  rw [runOutcome (afterSound (soundNew config mapper) history), afterConfig, afterMapper]
  rfl

theorem commandsReturn (config : Config) (history : List Command) {command : Command}
    (suited : command.Suited) :
    let dialect := (Dialect.new config Column.nativeType).after history
    Returned command.rejection? (dialect.run command).1 ∧
    ∀ bypass field, Form.found? bypass field = some (.of bypass field) := by
  intro dialect
  refine ⟨?_, Form.foundOf⟩
  rw [Dialect.returnAfter]
  exact command.returned config suited

def Column.starting (kind : ColumnKind) (default : Value) : Column where
  name := "starts"
  kind := kind
  operation := .create
  rename := ""
  unique := false
  required := true
  primary := false
  limit := 0
  precision := 0
  scale := 0
  default? := some default
  options := ""

def Date.springDay : Date := ⟨2024, 3, 9, by decide, by decide⟩

def Time.evening : Time := ⟨20, 15, 0, 0, by decide, by decide⟩

theorem datedTablesReturn :
    let moment := Value.dateTime ⟨.springDay, .evening⟩
    let dropped := Definition.key ⟨.unique, .drop, "uq", ["no"], "", "", none⟩
    let created : Table := ⟨.create, "season", "", true, "",
      [.column (.starting .date (.date .springDay)), .column (.starting .time moment)]⟩
    let altered : Table := ⟨.alter, "season", "", false, "",
      [.column (.starting .dateTime moment), dropped]⟩
    (Command.table created).Suited ∧ (Command.table altered).Suited ∧
    (∃ statement, (Dialect.standard.run (.table created)).1 = .ok statement) ∧
    (Dialect.standard.run (.table altered)).1 =
      .error (.rejected (.keyOperation .drop "uq" "season")) := by
  intro moment dropped created altered
  have createdSuited : ∀ column ∈ created.columns, ¬ column.Clashes := by decide
  have alteredSuited : ∀ column ∈ altered.columns, ¬ column.Clashes := by decide
  exact ⟨createdSuited, alteredSuited, (@commandsReturn {} [] (.table created) createdSuited).1,
    (@commandsReturn {} [] (.table altered) alteredSuited).1⟩

theorem dayStopsTable :
    let table : Table := ⟨.create, "season", "", false, "",
      [.column (.starting .dateTime (.date .springDay))]⟩
    (Dialect.standard.run (.table table)).1 =
      .error (.unprintable (.date .springDay) .dateTime) ∧
    ¬ ∃ rejection?, Returned rejection? (Dialect.standard.run (.table table)).1 := by
  intro table
  have stopped : (Dialect.standard.run (.table table)).1 =
      .error (.unprintable (.date .springDay) .dateTime) := rfl
  refine ⟨stopped, fun ⟨rejection?, returned⟩ => ?_⟩
  rw [stopped] at returned
  cases rejection? with
  | some reason => cases returned
  | none =>
    obtain ⟨statement, same⟩ := returned
    cases same

end Sqlwright
