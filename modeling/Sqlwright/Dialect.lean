import Sqlwright.Mutation
import Sqlwright.Schema.Index

/-! A dialect: its rules, its column types and the one cache that all its statements are escaped
through. Statements about rows bind their values; schema statements write them out. -/
namespace Sqlwright
open Identifier (Cache Rules)

structure Dialect where
  config : Config
  mapper : ColumnMapper
  cache : Cache

inductive Command where
  | escape (field : String)
  | query (query : Query)
  | insert (insert : Insert)
  | insertAll (insert : BulkInsert)
  | update (update : Update)
  | delete (delete : Delete)
  | table (table : Table)
  | index (index : Index)

namespace Dialect

def new (config : Config) (mapper : ColumnMapper) : Dialect := ⟨config, mapper, .empty⟩

def standard : Dialect := new {} Column.nativeType

def keep (dialect : Dialect) (cache : Cache) : Dialect := { dialect with cache }

def escape (dialect : Dialect) (field : String) : String × Dialect :=
  let (text, cache) := dialect.cache.escape (Rules.ofConfig dialect.config) field
  (text, dialect.keep cache)

def write (dialect : Dialect) (pieces : List Piece) : Statement × Dialect :=
  let draft := (Draft.start dialect.cache).writeAll dialect.config pieces
  (draft.statement, dialect.keep draft.cache)

/-- The pieces before an obstacle are escaped, though nothing comes of them. -/
def writeSchema (dialect : Dialect) (sketch : Sketch) : Except Obstacle Statement × Dialect :=
  let draft := (Draft.start dialect.cache).writeAll dialect.config.inlined sketch.pieces
  let statement : Except Obstacle Statement :=
    match sketch.obstacle? with
    | some obstacle => .error obstacle
    | none => .ok draft.statement
  (statement, dialect.keep draft.cache)

theorem writeSchemaOpen (dialect : Dialect) {sketch : Sketch} (unstopped : sketch.obstacle? = none) :
    ∃ statement, (dialect.writeSchema sketch).1 = .ok statement := by
  simp [writeSchema, unstopped]

theorem writeSchemaStopped (dialect : Dialect) {sketch : Sketch} {obstacle : Obstacle}
    (stopped : sketch.obstacle? = some obstacle) :
    (dialect.writeSchema sketch).1 = .error obstacle := by
  simp [writeSchema, stopped]

def query (dialect : Dialect) (query : Query) : Statement × Dialect :=
  dialect.write query.statementPieces

def insert (dialect : Dialect) (insert : Insert) : Statement × Dialect :=
  dialect.write insert.pieces

def insertAll (dialect : Dialect) (insert : BulkInsert) : Statement × Dialect :=
  dialect.write insert.pieces

def update (dialect : Dialect) (update : Update) : Statement × Dialect :=
  dialect.write update.pieces

def delete (dialect : Dialect) (delete : Delete) : Statement × Dialect :=
  dialect.write delete.pieces

def table (dialect : Dialect) (table : Table) : Except Obstacle Statement × Dialect :=
  dialect.writeSchema (table.sketch dialect.mapper)

def index (dialect : Dialect) (index : Index) : Except Obstacle Statement × Dialect :=
  dialect.writeSchema index.sketch

def bound (result : Statement × Dialect) : Except Obstacle Statement × Dialect :=
  (.ok result.1, result.2)

def run (dialect : Dialect) : Command → Except Obstacle Statement × Dialect
  | .escape field =>
      let (text, dialect) := dialect.escape field
      (.ok ⟨text, []⟩, dialect)
  | .query q => bound (dialect.query q)
  | .insert i => bound (dialect.insert i)
  | .insertAll i => bound (dialect.insertAll i)
  | .update u => bound (dialect.update u)
  | .delete d => bound (dialect.delete d)
  | .table t => dialect.table t
  | .index i => dialect.index i

end Dialect

end Sqlwright
