import Sqlwright.Proofs.Dialect.History
import Sqlwright.Proofs.Mutation.Shape

/-! Commands of one shape have one text. Their arguments are values that stand at the same
places of the two commands, so nothing but a placeholder can be seen of a value that is bound. -/
namespace Sqlwright
namespace RowCommand

def shape : RowCommand → RowCommand
  | .query q => .query q.shape
  | .insert i => .insert i.shape
  | .insertAll i => .insertAll i.shape
  | .update u => .update u.shape
  | .delete d => .delete d.shape

def values : RowCommand → List Value
  | .query q => q.sites.map Site.value
  | .insert i => i.changes.values
  | .insertAll i => i.rows.flatMap Changes.values
  | .update u => u.values
  | .delete d => d.filter.sites.map Site.value

theorem shapePieces (command : RowCommand) :
    command.shape.pieces = Piece.shapes command.pieces := by
  cases command with
  | query q => exact q.shapeStatement
  | insert i => exact i.shapePieces
  | insertAll i => exact i.shapePieces
  | update u => exact u.shapePieces
  | delete d => exact d.shapePieces

theorem sqlOfShape {config : Config} (binds : config.inline = false) (command : RowCommand) :
    (Statement.empty.extended config command.pieces).sql =
      (Statement.empty.extended config command.shape.pieces).sql := by
  rw [Statement.extendedEmpty, Statement.extendedEmpty, shapePieces]
  exact (Piece.joinedShapes binds 0 command.pieces).symm

theorem argumentsPaired {config : Config} (binds : config.inline = false)
    {first second : RowCommand} (alike : first.shape = second.shape) :
    List.Forall₂ (Value.Paired first.values second.values)
      (Statement.empty.extended config first.pieces).arguments
      (Statement.empty.extended config second.pieces).arguments := by
  rw [Statement.extendedEmpty, Statement.extendedEmpty]
  show List.Forall₂ _ (Piece.allBound config first.pieces) (Piece.allBound config second.pieces)
  rw [Piece.allBoundSites binds, Piece.allBoundSites binds]
  cases first with
  | query q =>
    cases second with
    | query r => exact Query.valuesPaired (RowCommand.query.inj alike)
    | _ => cases alike
  | insert i =>
    cases second with
    | insert j => exact Insert.valuesPaired (RowCommand.insert.inj alike)
    | _ => cases alike
  | insertAll i =>
    cases second with
    | insertAll j => exact BulkInsert.valuesPaired (RowCommand.insertAll.inj alike)
    | _ => cases alike
  | update u =>
    cases second with
    | update v => exact Update.valuesPaired (RowCommand.update.inj alike)
    | _ => cases alike
  | delete d =>
    cases second with
    | delete e => exact Delete.valuesPaired (RowCommand.delete.inj alike)
    | _ => cases alike

end RowCommand

theorem textHidesValues (config : Config) (binds : config.inline = false)
    (mapper : ColumnMapper) (earlier later : List Command) (first second : RowCommand)
    (alike : first.shape = second.shape) :
    ∃ one two,
      (((Dialect.new config mapper).after earlier).run first.command).1 = .ok one ∧
      (((Dialect.new config mapper).after later).run second.command).1 = .ok two ∧
      one.sql = two.sql ∧
      List.Forall₂ (Value.Paired first.values second.values) one.arguments two.arguments := by
  refine ⟨_, _, Dialect.rowStatement config mapper earlier first,
    Dialect.rowStatement config mapper later second, ?_, RowCommand.argumentsPaired binds alike⟩
  rw [first.sqlOfShape binds, second.sqlOfShape binds, alike]

def Update.retitled (identity score title age : Value) : Update where
  table := "post"
  primary := "id"
  changes := .ofList [("title", .set title), ("score", .increase score), ("id", .set identity)]
  filter := .among "author" [.query
    { Query.ofTable "user" with filter := .fragment "age > ?" [age] }] false

theorem retitledHidesValues :
    let first : RowCommand := .update (.retitled (.int 1) (.int 2) (.string "'; --") (.int 18))
    let second : RowCommand := .update (.retitled .null .null (.string "") (.bool true))
    Config.inline {} = false ∧ first.shape = second.shape ∧
    ∃ one two,
      ((Dialect.new {} Column.nativeType).run first.command).1 = .ok one ∧
      (((Dialect.new {} Column.nativeType).after [.escape "post"]).run second.command).1 =
        .ok two ∧
      one.sql = two.sql ∧
      List.Forall₂ (Value.Paired first.values second.values) one.arguments two.arguments := by
  intro first second
  have binds : Config.inline {} = false := rfl
  have alike : first.shape = second.shape := rfl
  exact ⟨binds, alike, textHidesValues {} binds Column.nativeType [] [.escape "post"] first second
    alike⟩

end Sqlwright
