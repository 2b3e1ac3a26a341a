import Sqlwright.Proofs.Identifier.Cache
import Sqlwright.Statement

/-! What pieces come to in a statement, without a draft and its cache: tokens, which are texts
and numbered placeholders, and the values bound. A placeholder has the number of its value, so
tokens depend on how many values were bound before them and on nothing else. -/
namespace Sqlwright
open Identifier (Rules)

theorem Value.literalInlined (config : Config) (value : Value) :
    value.literal config.inlined = value.literal config := by
  cases value <;> rfl

/-- A placeholder keeps the value that it was written for. -/
inductive Token where
  | text (sql : String)
  | placeholder (position : Nat) (value : Value)

namespace Token

def sql (config : Config) : Token → String
  | .text sql => sql
  | .placeholder position _ => Statement.placeholder config position

def joined (config : Config) : List Token → String
  | [] => ""
  | token :: rest => token.sql config ++ joined config rest

theorem joinedAppend (config : Config) (first second : List Token) :
    joined config (first ++ second) = joined config first ++ joined config second := by
  induction first with
  | nil => simp [joined]
  | cons token rest ih => simp [joined, ih, String.append_assoc]

def renumber (offset : Nat) : Token → Token
  | .text sql => .text sql
  | .placeholder position value => .placeholder (offset + position) value

def slot? : Token → Option (Nat × Value)
  | .text _ => none
  | .placeholder position value => some (position, value)

theorem memSlots {tokens : List Token} {position : Nat} {value : Value} :
    (position, value) ∈ tokens.filterMap slot? ↔ .placeholder position value ∈ tokens := by
  rw [List.mem_filterMap]
  constructor
  · rintro ⟨token, member, same⟩
    cases token with
    | text sql => simp [slot?] at same
    | placeholder p v =>
      cases Option.some.inj same
      exact member
  · intro member
    exact ⟨_, member, rfl⟩

theorem joinedRenumber {config : Config} (plain : config.ordinal = false) (offset : Nat)
    (tokens : List Token) :
    joined config (tokens.map (renumber offset)) = joined config tokens := by
  induction tokens with
  | nil => rfl
  | cons token rest ih =>
    cases token <;> simp [joined, renumber, sql, Statement.placeholder, plain, ih]

end Token

namespace Piece

def tokens (config : Config) (count : Nat) : Piece → List Token
  | .text sql => [.text sql]
  | .field name => [.text ((Rules.ofConfig config).escape name)]
  | .value item =>
      if config.inline then [.text (item.literal config)] else [.placeholder (count + 1) item]
  | .quoted content => [.text (config.quoted content)]
  | .arguments _ => []

def bound (config : Config) : Piece → List Value
  | .value item => if config.inline then [] else [item]
  | .arguments items => items
  | _ => []

def allTokens (config : Config) : Nat → List Piece → List Token
  | _, [] => []
  | count, piece :: rest =>
      piece.tokens config count ++ allTokens config (count + (piece.bound config).length) rest

def allBound (config : Config) (pieces : List Piece) : List Value := pieces.flatMap (bound config)

theorem allBoundAppend (config : Config) (first second : List Piece) :
    allBound config (first ++ second) = allBound config first ++ allBound config second :=
  List.flatMap_append

theorem allTokensAppend (config : Config) (count : Nat) (first second : List Piece) :
    allTokens config count (first ++ second) =
      allTokens config count first ++
        allTokens config (count + (allBound config first).length) second := by
  induction first generalizing count with
  | nil => simp [allTokens, allBound]
  | cons piece rest ih =>
    simp only [List.cons_append, allTokens, ih, List.append_assoc]
    simp [allBound, Nat.add_assoc]

theorem textOfTokens (config : Config) (count : Nat) (sql : String) (rest : List Piece) :
    Token.joined config (allTokens config count (.text sql :: rest)) =
      sql ++ Token.joined config (allTokens config count rest) := rfl

theorem fieldOfTokens (config : Config) (count : Nat) (name : String) (rest : List Piece) :
    Token.joined config (allTokens config count (.field name :: rest)) =
      (Rules.ofConfig config).escape name ++ Token.joined config (allTokens config count rest) :=
  rfl

theorem quotedOfTokens (config : Config) (count : Nat) (content : String) (rest : List Piece) :
    Token.joined config (allTokens config count (.quoted content :: rest)) =
      config.quoted content ++ Token.joined config (allTokens config count rest) := rfl

theorem tokensRenumber (config : Config) (offset count : Nat) (piece : Piece) :
    piece.tokens config (offset + count) =
      (piece.tokens config count).map (Token.renumber offset) := by
  cases piece with
  | value item =>
    cases mode : config.inline <;> simp [tokens, Token.renumber, mode, Nat.add_assoc]
  | _ => rfl

theorem allTokensRenumber (config : Config) (offset count : Nat) (pieces : List Piece) :
    allTokens config (offset + count) pieces =
      (allTokens config count pieces).map (Token.renumber offset) := by
  induction pieces generalizing count with
  | nil => rfl
  | cons piece rest ih =>
    simp only [allTokens, List.map_append, tokensRenumber]
    rw [Nat.add_assoc, ih]

end Piece

namespace Statement

def extended (config : Config) (statement : Statement) (pieces : List Piece) : Statement where
  sql := statement.sql ++
    Token.joined config (Piece.allTokens config statement.arguments.length pieces)
  arguments := statement.arguments ++ Piece.allBound config pieces

theorem extendedNil (config : Config) (statement : Statement) :
    statement.extended config [] = statement := by
  simp [extended, Piece.allTokens, Piece.allBound, Token.joined]

theorem extendedOne (config : Config) (statement : Statement) (piece : Piece) :
    statement.extended config [piece] =
      ⟨statement.sql ++ Token.joined config (piece.tokens config statement.arguments.length),
        statement.arguments ++ piece.bound config⟩ := by
  simp [extended, Piece.allTokens, Piece.allBound]

theorem extendedAppend (config : Config) (statement : Statement) (first second : List Piece) :
    statement.extended config (first ++ second) =
      (statement.extended config first).extended config second := by
  simp [extended, Piece.allTokensAppend, Piece.allBoundAppend, Token.joinedAppend,
    String.append_assoc]

theorem extendedEmpty (config : Config) (pieces : List Piece) :
    empty.extended config pieces =
      ⟨Token.joined config (Piece.allTokens config 0 pieces), Piece.allBound config pieces⟩ := by
  simp [extended, empty]

end Statement

namespace Draft

theorem writeExtends {draft : Draft} (sound : draft.cache.Sound) (config : Config)
    (piece : Piece) :
    (draft.write config piece).statement = draft.statement.extended config [piece] ∧
      (draft.write config piece).cache.Sound := by
  rw [Statement.extendedOne]
  cases piece with
  | text sql => exact ⟨by simp [write, Statement.append, Piece.tokens, Piece.bound,
      Token.joined, Token.sql], sound⟩
  | field name =>
    obtain ⟨text, kept⟩ := Identifier.Cache.escapeSound sound (Rules.ofConfig config) name
    exact ⟨by simp [write, Statement.append, Piece.tokens, Piece.bound, Token.joined,
      Token.sql, text], kept⟩
  | value item =>
    refine ⟨?_, sound⟩
    cases mode : config.inline <;>
      simp [write, Statement.bind, Statement.append, Statement.attach, Piece.tokens,
        Piece.bound, Token.joined, Token.sql, mode]
  | quoted content => exact ⟨by simp [write, Statement.append, Piece.tokens, Piece.bound,
      Token.joined, Token.sql], sound⟩
  | arguments items => exact ⟨by simp [write, Statement.attach, Piece.tokens, Piece.bound,
      Token.joined], sound⟩

theorem writeAllExtends {draft : Draft} (sound : draft.cache.Sound) (config : Config)
    (pieces : List Piece) :
    (draft.writeAll config pieces).statement = draft.statement.extended config pieces ∧
      (draft.writeAll config pieces).cache.Sound := by
  induction pieces generalizing draft with
  | nil => exact ⟨(Statement.extendedNil config draft.statement).symm, sound⟩
  | cons piece rest ih =>
    obtain ⟨first, kept⟩ := writeExtends sound config piece
    obtain ⟨later, sound⟩ := ih kept
    refine ⟨?_, sound⟩
    show ((draft.write config piece).writeAll config rest).statement = _
    rw [later, first, ← Statement.extendedAppend]
    rfl

end Draft

end Sqlwright
