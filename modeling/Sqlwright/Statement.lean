import Sqlwright.Identifier.Cache
import Sqlwright.Value.Literal

/-! Statements and the pieces they are written from: texts, fields to be escaped, values to be
bound or written out, texts to be quoted, and values for placeholders that a text already has. A
placeholder has the position of its value among all values bound before it, whichever piece
bound them. -/
namespace Sqlwright
open Identifier (Cache Rules)

structure Statement where
  sql : String
  arguments : List Value

inductive Piece where
  | text (sql : String)
  | field (field : String)
  | value (value : Value)
  | quoted (text : String)
  | arguments (values : List Value)

namespace Statement

def empty : Statement := ⟨"", []⟩

def append (statement : Statement) (sql : String) : Statement :=
  { statement with sql := statement.sql ++ sql }

def attach (statement : Statement) (values : List Value) : Statement :=
  { statement with arguments := statement.arguments ++ values }

def placeholder (config : Config) (position : Nat) : String :=
  config.placeholder ++ if config.ordinal then toString position else ""

def bind (config : Config) (statement : Statement) (value : Value) : Statement :=
  if config.inline then statement.append (value.literal config)
  else
    let bound := statement.attach [value]
    bound.append (placeholder config bound.arguments.length)

end Statement

structure Draft where
  statement : Statement
  cache : Cache

namespace Draft

def start (cache : Cache) : Draft := ⟨Statement.empty, cache⟩

def write (config : Config) (draft : Draft) : Piece → Draft
  | .text sql => { draft with statement := draft.statement.append sql }
  | .field field =>
      let (text, cache) := draft.cache.escape (Rules.ofConfig config) field
      ⟨draft.statement.append text, cache⟩
  | .value value => { draft with statement := draft.statement.bind config value }
  | .quoted text => { draft with statement := draft.statement.append (config.quoted text) }
  | .arguments values => { draft with statement := draft.statement.attach values }

def writeAll (config : Config) (draft : Draft) (pieces : List Piece) : Draft :=
  pieces.foldl (write config) draft

theorem writeAllAppend (config : Config) (draft : Draft) (first second : List Piece) :
    draft.writeAll config (first ++ second) =
      (draft.writeAll config first).writeAll config second :=
  List.foldl_append

end Draft

namespace Piece

def separated (separator : String) (parts : List (List Piece)) : List Piece :=
  [Piece.text separator].intercalate parts

def enclosed (body : List Piece) : List Piece := .text "(" :: body ++ [.text ")"]

def fields (separator : String) (names : List String) : List Piece :=
  separated separator (names.map fun name => [.field name])

def values (items : List Value) : List Piece :=
  separated "," (items.map fun item => [.value item])

end Piece

end Sqlwright
