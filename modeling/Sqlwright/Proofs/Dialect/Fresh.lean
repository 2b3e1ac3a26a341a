import Mathlib
import Sqlwright.Proofs.Dialect.History
import Sqlwright.Proofs.Identifier.Stored

/-! A dialect that has been used against a fresh one. What a command gives is said without any
cache, and a dialect with a sound cache gives just that; its cache is that of a run of escapes, the
fields that its commands wrote. So a sequence of commands, rejected ones included, gives what each
of them gives alone. -/
namespace Sqlwright
open Identifier (Cache Rules)

namespace Piece

def call? (config : Config) : Piece → Option (Rules × String)
  | .field name => some (Rules.ofConfig config, name)
  | _ => none

end Piece

namespace Draft

theorem writeAllCache (config : Config) (draft : Draft) (pieces : List Piece) :
    (draft.writeAll config pieces).cache =
      draft.cache.through (pieces.filterMap (Piece.call? config)) := by
  induction pieces generalizing draft with
  | nil => rfl
  | cons piece rest ih =>
    have later : (draft.writeAll config (piece :: rest)).cache =
        (draft.write config piece).cache.through (rest.filterMap (Piece.call? config)) :=
      ih (draft.write config piece)
    rw [later]
    cases piece <;> rfl

end Draft

namespace Command

def pieces (mapper : ColumnMapper) : Command → List Piece
  | .escape field => [.field field]
  | .query q => q.statementPieces
  | .insert i => i.pieces
  | .insertAll i => i.pieces
  | .update u => u.pieces
  | .delete d => d.pieces
  | .table t => (t.sketch mapper).pieces
  | .index i => i.sketch.pieces

def calls (config : Config) (mapper : ColumnMapper) (command : Command) : List (Rules × String) :=
  (command.pieces mapper).filterMap (Piece.call? config)

def outcome (config : Config) (mapper : ColumnMapper) : Command → Except Obstacle Statement
  | .table t => (t.sketch mapper).outcome config
  | .index i => i.sketch.outcome config
  | .escape field => .ok ⟨(Rules.ofConfig config).escape field, []⟩
  | command => .ok (Statement.empty.extended config (command.pieces mapper))

end Command

namespace Dialect

theorem runCache (dialect : Dialect) (command : Command) :
    (dialect.run command).2.cache =
      dialect.cache.through (command.calls dialect.config dialect.mapper) := by
  cases command with
  | escape field => rfl
  | query q => exact Draft.writeAllCache dialect.config (.start dialect.cache) _
  | insert i => exact Draft.writeAllCache dialect.config (.start dialect.cache) _
  | insertAll i => exact Draft.writeAllCache dialect.config (.start dialect.cache) _
  | update u => exact Draft.writeAllCache dialect.config (.start dialect.cache) _
  | delete d => exact Draft.writeAllCache dialect.config (.start dialect.cache) _
  | table t => exact Draft.writeAllCache dialect.config.inlined (.start dialect.cache) _
  | index i => exact Draft.writeAllCache dialect.config.inlined (.start dialect.cache) _

theorem afterCache (dialect : Dialect) (commands : List Command) :
    (dialect.after commands).cache =
      dialect.cache.through (commands.flatMap (Command.calls dialect.config dialect.mapper)) := by
  induction commands generalizing dialect with
  | nil => rfl
  | cons command rest ih =>
    have later := ih (dialect.run command).2
    rw [runConfig, runMapper, runCache] at later
    rw [List.flatMap_cons, Cache.through, List.foldl_append]
    exact later

theorem runOutcome {dialect : Dialect} (sound : dialect.Sound) (command : Command) :
    (dialect.run command).1 = command.outcome dialect.config dialect.mapper := by
  cases command with
  | escape field =>
    have text := (Cache.escapeSound sound (Rules.ofConfig dialect.config) field).1
    exact congrArg (fun text => Except.ok (Statement.mk text [])) text
  | query q => exact congrArg Except.ok (writeExtends sound _).1
  | insert i => exact congrArg Except.ok (writeExtends sound _).1
  | insertAll i => exact congrArg Except.ok (writeExtends sound _).1
  | update u => exact congrArg Except.ok (writeExtends sound _).1
  | delete d => exact congrArg Except.ok (writeExtends sound _).1
  | table t => exact writeSchemaOutcome sound _
  | index i => exact writeSchemaOutcome sound _

def results : Dialect → List Command → List (Except Obstacle Statement)
  | _, [] => []
  | dialect, command :: rest => (dialect.run command).1 :: results (dialect.run command).2 rest

theorem resultsOutcome {dialect : Dialect} (sound : dialect.Sound) (commands : List Command) :
    dialect.results commands =
      commands.map (Command.outcome dialect.config dialect.mapper) := by
  induction commands generalizing dialect with
  | nil => rfl
  | cons command rest ih =>
    have later := ih (runSound sound command)
    rw [runConfig, runMapper] at later
    rw [results, List.map_cons, runOutcome sound, later]

end Dialect

theorem cacheInvisible (calls more : List (Rules × String)) (config : Config)
    (mapper : ColumnMapper) (commands : List Command) :
    (∀ entry ∈ (Cache.after calls).entries,
      entry.text = entry.rules.escapeChars entry.field) ∧
    (Cache.after calls).entries <:+ (Cache.after (calls ++ more)).entries ∧
    Cache.empty.texts calls = calls.map (fun call => (Cache.empty.escape call.1 call.2).1) ∧
    ((Dialect.new config mapper).after commands).cache =
      Cache.after (commands.flatMap (Command.calls config mapper)) ∧
    (Dialect.new config mapper).results commands =
      commands.map fun command => ((Dialect.new config mapper).run command).1 := by
  refine ⟨Cache.afterSound calls, ?_, ?_, ?_, ?_⟩
  · rw [Cache.afterAppend]
    exact Cache.throughSuffix _ more
  · rw [Cache.textsSound Cache.soundEmpty]
    refine List.map_congr_left fun call _ => ?_
    exact (Cache.escapeSound Cache.soundEmpty call.1 call.2).1.symm
  · exact Dialect.afterCache (Dialect.new config mapper) commands
  · have fresh := Dialect.soundNew config mapper
    rw [Dialect.resultsOutcome fresh]
    refine List.map_congr_left fun command _ => ?_
    exact (Dialect.runOutcome fresh command).symm

theorem sharedCacheInvisible :
    let brackets := Rules.ofConfig {}
    let angles : Rules := ⟨['<'], ['>'], ['>', '>'], '^'⟩
    let calls := [(brackets, "count(user.id) as n"), (angles, "user.id"), (brackets, "user.id")]
    let renamed : Index := ⟨.rename, "user", "ix", ["id"], false, false, .empty, ""⟩
    let commands := [Command.index renamed, .query (Query.ofTable "user"), .index renamed]
    let entry : Identifier.Entry := ⟨brackets, "user.id".toList, "[user].[id]".toList⟩
    entry ∈ (Cache.after calls).entries ∧
    entry.text = entry.rules.escapeChars entry.field ∧
    Cache.empty.texts calls = ["count([user].[id]) AS [n]", "<user>.<id>", "[user].[id]"] ∧
    (Dialect.new {} Column.nativeType).results commands =
      [.error (.rejected (.indexOperation .rename "ix" "user")),
        .ok ⟨"SELECT * FROM [user];", []⟩,
        .error (.rejected (.indexOperation .rename "ix" "user"))] := by
  intro brackets angles calls renamed commands entry
  obtain ⟨right, _, texts, _, results⟩ :=
    cacheInvisible calls [] {} Column.nativeType commands
  have kept : entry ∈ (Cache.after calls).entries := by decide +kernel
  refine ⟨kept, right entry kept, texts.trans ?_, results.trans ?_⟩ <;> cbv

end Sqlwright
