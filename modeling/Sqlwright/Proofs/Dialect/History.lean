import Sqlwright.Dialect
import Sqlwright.Proofs.Statement.Token

/-! A dialect after any commands, those that end at an obstacle included. Only its cache changes
and that stays sound, so the statement for a command does not depend on the commands
before it. -/
namespace Sqlwright

inductive RowCommand where
  | query (query : Query)
  | insert (insert : Insert)
  | insertAll (insert : BulkInsert)
  | update (update : Update)
  | delete (delete : Delete)

namespace RowCommand

def command : RowCommand → Command
  | .query q => .query q
  | .insert i => .insert i
  | .insertAll i => .insertAll i
  | .update u => .update u
  | .delete d => .delete d

def pieces : RowCommand → List Piece
  | .query q => q.statementPieces
  | .insert i => i.pieces
  | .insertAll i => i.pieces
  | .update u => u.pieces
  | .delete d => d.pieces

end RowCommand

namespace Sketch

def outcome (config : Config) (sketch : Sketch) : Except Obstacle Statement :=
  match sketch.obstacle? with
  | some obstacle => .error obstacle
  | none => .ok (Statement.empty.extended config.inlined sketch.pieces)

theorem outcomeOk {config : Config} {sketch : Sketch} {statement : Statement}
    (done : sketch.outcome config = .ok statement) :
    sketch.obstacle? = none ∧
      statement = Statement.empty.extended config.inlined sketch.pieces := by
  cases stop : sketch.obstacle? with
  | some obstacle => simp [outcome, stop] at done
  | none =>
    simp only [outcome, stop] at done
    exact ⟨rfl, (Except.ok.inj done).symm⟩

theorem outcomeOpen {config : Config} {sketch : Sketch} (unstopped : sketch.obstacle? = none) :
    sketch.outcome config =
      .ok (Statement.empty.extended config.inlined sketch.pieces) := by
  simp only [outcome, unstopped]

theorem outcomeOf (config : Config) (pieces : List Piece) :
    (of pieces).outcome config = .ok (Statement.empty.extended config.inlined pieces) :=
  outcomeOpen rfl

end Sketch

namespace Dialect

def after (dialect : Dialect) (commands : List Command) : Dialect :=
  commands.foldl (fun dialect command => (dialect.run command).2) dialect

def Sound (dialect : Dialect) : Prop := dialect.cache.Sound

theorem soundNew (config : Config) (mapper : ColumnMapper) : (new config mapper).Sound :=
  Identifier.Cache.soundEmpty

theorem writeRow (dialect : Dialect) (command : RowCommand) :
    dialect.run command.command = bound (dialect.write command.pieces) := by
  cases command <;> rfl

theorem writeExtends {dialect : Dialect} (sound : dialect.Sound) (pieces : List Piece) :
    (dialect.write pieces).1 = Statement.empty.extended dialect.config pieces ∧
      (dialect.write pieces).2.Sound := by
  have start : (Draft.start dialect.cache).cache.Sound := sound
  exact Draft.writeAllExtends start dialect.config pieces

theorem writeSchemaSound {dialect : Dialect} (sound : dialect.Sound) (sketch : Sketch) :
    (dialect.writeSchema sketch).2.Sound := by
  have start : (Draft.start dialect.cache).cache.Sound := sound
  exact (Draft.writeAllExtends start dialect.config.inlined sketch.pieces).2

theorem writeSchemaOutcome {dialect : Dialect} (sound : dialect.Sound) (sketch : Sketch) :
    (dialect.writeSchema sketch).1 = sketch.outcome dialect.config := by
  have start : (Draft.start dialect.cache).cache.Sound := sound
  have written := (Draft.writeAllExtends start dialect.config.inlined sketch.pieces).1
  simp only [writeSchema, Sketch.outcome]
  cases sketch.obstacle? with
  | some obstacle => rfl
  | none => exact congrArg Except.ok written

theorem runKeeps (dialect : Dialect) (command : Command) :
    (dialect.run command).2 = dialect.keep (dialect.run command).2.cache := by
  cases command <;> rfl

theorem runConfig (dialect : Dialect) (command : Command) :
    (dialect.run command).2.config = dialect.config := by
  rw [runKeeps]
  rfl

theorem runMapper (dialect : Dialect) (command : Command) :
    (dialect.run command).2.mapper = dialect.mapper := by
  rw [runKeeps]
  rfl

theorem runSound {dialect : Dialect} (sound : dialect.Sound) (command : Command) :
    (dialect.run command).2.Sound := by
  cases command with
  | escape field => exact (Identifier.Cache.escapeSound sound _ field).2
  | query query => exact (writeExtends sound _).2
  | insert insert => exact (writeExtends sound _).2
  | insertAll insert => exact (writeExtends sound _).2
  | update update => exact (writeExtends sound _).2
  | delete delete => exact (writeExtends sound _).2
  | table table => exact writeSchemaSound sound _
  | index index => exact writeSchemaSound sound _

theorem afterConfig (dialect : Dialect) (commands : List Command) :
    (dialect.after commands).config = dialect.config := by
  induction commands generalizing dialect with
  | nil => rfl
  | cons command rest ih => exact (ih _).trans (runConfig dialect command)

theorem afterMapper (dialect : Dialect) (commands : List Command) :
    (dialect.after commands).mapper = dialect.mapper := by
  induction commands generalizing dialect with
  | nil => rfl
  | cons command rest ih => exact (ih _).trans (runMapper dialect command)

theorem afterSound {dialect : Dialect} (sound : dialect.Sound) (commands : List Command) :
    (dialect.after commands).Sound := by
  induction commands generalizing dialect with
  | nil => exact sound
  | cons command rest ih => exact ih (runSound sound command)

theorem writeAfter (config : Config) (mapper : ColumnMapper) (earlier : List Command)
    (pieces : List Piece) :
    (((new config mapper).after earlier).write pieces).1 =
      Statement.empty.extended config pieces := by
  rw [(writeExtends (afterSound (soundNew config mapper) earlier) pieces).1, afterConfig]
  rfl

theorem writeSchemaAfter (config : Config) (mapper : ColumnMapper) (earlier : List Command)
    (sketch : Sketch) :
    (((new config mapper).after earlier).writeSchema sketch).1 = sketch.outcome config := by
  rw [writeSchemaOutcome (afterSound (soundNew config mapper) earlier), afterConfig]
  rfl

theorem rowStatement (config : Config) (mapper : ColumnMapper) (earlier : List Command)
    (command : RowCommand) :
    (((new config mapper).after earlier).run command.command).1 =
      .ok (Statement.empty.extended config command.pieces) := by
  rw [writeRow]
  exact congrArg Except.ok (writeAfter config mapper earlier command.pieces)

end Dialect

end Sqlwright
