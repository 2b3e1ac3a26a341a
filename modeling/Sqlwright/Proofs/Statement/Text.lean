import Sqlwright.Proofs.Statement.Site

/-! The texts and the arguments that pieces come to in a draft. A list of parts comes to the
texts of the parts with the separator between them; the values bound go behind those bound
before, whatever the cache holds. -/
namespace Sqlwright
open Identifier (Rules)

theorem flatMapAt {α β : Type} (f : α → List β) {items : List α} {index : Nat} {item : α}
    (listed : items[index]? = some item) :
    items.flatMap f = (items.take index).flatMap f ++
      (f item ++ (items.drop (index + 1)).flatMap f) := by
  obtain ⟨inside, here⟩ := List.getElem?_eq_some_iff.mp listed
  rw [← here, ← List.flatMap_cons, ← List.flatMap_append, ← List.drop_eq_getElem_cons inside,
    List.take_append_drop]

namespace Piece

theorem textAlone (config : Config) (count : Nat) (sql : String) :
    Token.joined config (allTokens config count [.text sql]) = sql := String.append_empty

theorem fieldAlone (config : Config) (count : Nat) (name : String) :
    Token.joined config (allTokens config count [.field name]) =
      (Rules.ofConfig config).escape name := String.append_empty

def texts (config : Config) : Nat → List Piece → List String
  | _, [] => []
  | count, piece :: rest =>
      Token.joined config (piece.tokens config count) ::
        texts config (count + (piece.bound config).length) rest

def partTexts (config : Config) : Nat → List (List Piece) → List String
  | _, [] => []
  | count, part :: rest =>
      Token.joined config (allTokens config count part) ::
        partTexts config (count + (allBound config part).length) rest

theorem partsOfTokens (config : Config) (count : Nat) (word : String) (parts : List (List Piece)) :
    Token.joined config (allTokens config count (separated word parts)) =
      word.intercalate (partTexts config count parts) := by
  induction parts generalizing count with
  | nil => rfl
  | cons part rest ih =>
    cases rest with
    | nil =>
      rw [separated, List.intercalate_singleton]
      exact String.intercalate_singleton.symm
    | cons next later =>
      have first : separated word (part :: next :: later) =
          part ++ .text word :: separated word (next :: later) := by
        rw [separated, List.intercalate_cons_cons, List.append_assoc]
        rfl
      rw [first, allTokensAppend, Token.joinedAppend, textOfTokens, ih, ← String.append_assoc]
      exact String.intercalate_cons_cons.symm

theorem partTextsAt (config : Config) (count : Nat) (parts : List (List Piece)) (index : Nat) :
    (partTexts config count parts)[index]? = parts[index]?.map fun part =>
      Token.joined config
        (allTokens config (count + (allBound config (parts.take index).flatten).length) part) := by
  induction parts generalizing count index with
  | nil => simp [partTexts]
  | cons part rest ih =>
    cases index with
    | zero => rfl
    | succ index =>
      rw [partTexts, List.getElem?_cons_succ, List.getElem?_cons_succ, ih, List.take_succ_cons,
        List.flatten_cons, allBoundAppend, List.length_append, Nat.add_assoc]

theorem partTextsOne (config : Config) (count : Nat) (pieces : List Piece) :
    partTexts config count (pieces.map ([·])) = texts config count pieces := by
  induction pieces generalizing count with
  | nil => rfl
  | cons piece rest ih => simp [partTexts, texts, ih, allTokens, allBound]

theorem separatedOfTokens (config : Config) (count : Nat) (word : String) (pieces : List Piece) :
    Token.joined config (allTokens config count (separated word (pieces.map ([·])))) =
      word.intercalate (texts config count pieces) := by
  rw [partsOfTokens, partTextsOne]

theorem enclosedOfTokens (config : Config) (count : Nat) (body : List Piece) :
    Token.joined config (allTokens config count (enclosed body)) =
      "(" ++ Token.joined config (allTokens config count body) ++ ")" := by
  rw [enclosed, List.cons_append, textOfTokens, allTokensAppend, Token.joinedAppend, textAlone,
    String.append_assoc]

theorem fieldTexts (config : Config) (count : Nat) (names : List String) :
    texts config count (names.map .field) = names.map (Rules.ofConfig config).escape := by
  induction names with
  | nil => rfl
  | cons name rest ih =>
    rw [List.map_cons, List.map_cons, ← ih]
    exact congrArg (· :: _) String.append_empty

theorem valueTexts {config : Config} (binds : config.inline = false) (count : Nat)
    (items : List Value) : texts config count (items.map .value) =
      (List.range items.length).map fun index =>
        Statement.placeholder config (count + (index + 1)) := by
  induction items generalizing count with
  | nil => rfl
  | cons item rest ih =>
    have size : ((Piece.value item).bound config).length = 1 := by simp [bound, binds]
    have first : Token.joined config ((Piece.value item).tokens config count) =
        Statement.placeholder config (count + 1) := by
      simp [tokens, binds, Token.joined, Token.sql]
    rw [List.map_cons, texts, first, size, ih, List.length_cons, List.range_succ_eq_map,
      List.map_cons, List.map_map]
    refine congrArg (_ :: ·) (List.map_congr_left fun index _ => ?_)
    exact congrArg _ (by omega)

theorem fieldsOfTokens (config : Config) (count : Nat) (separator : String)
    (names : List String) :
    Token.joined config (allTokens config count (fields separator names)) =
      separator.intercalate (names.map (Rules.ofConfig config).escape) := by
  rw [← fieldTexts config count, ← separatedOfTokens, List.map_map]
  rfl

theorem valuesOfTokens {config : Config} (binds : config.inline = false) (count : Nat)
    (items : List Value) :
    Token.joined config (allTokens config count (values items)) =
      ",".intercalate ((List.range items.length).map fun index =>
        Statement.placeholder config (count + (index + 1))) := by
  rw [← valueTexts binds, ← separatedOfTokens, List.map_map]
  rfl

theorem boundOfSites (config : Config) (pieces : List Piece) :
    allBound config pieces = (allSites pieces).flatMap fun site =>
      if config.inline = true ∧ site.use = .placed then [] else [site.value] := by
  induction pieces with
  | nil => rfl
  | cons piece rest ih =>
    have first : piece.bound config = piece.sites.flatMap fun site =>
        if config.inline = true ∧ site.use = .placed then [] else [site.value] := by
      cases piece <;> simp [bound, sites, Site.loose, List.flatMap_map]
    show piece.bound config ++ allBound config rest = _
    rw [first, ih, ← List.flatMap_append]
    rfl

theorem boundWithoutSites (config : Config) {pieces : List Piece} (none : allSites pieces = []) :
    allBound config pieces = [] := by
  rw [boundOfSites, none]
  rfl

end Piece

theorem Draft.writeAllArguments (config : Config) (draft : Draft) (pieces : List Piece) :
    (draft.writeAll config pieces).statement.arguments =
      draft.statement.arguments ++ Piece.allBound config pieces := by
  induction pieces generalizing draft with
  | nil => exact (List.append_nil _).symm
  | cons piece rest ih =>
    have first : (draft.write config piece).statement.arguments =
        draft.statement.arguments ++ piece.bound config := by
      cases piece with
      | value item =>
        cases mode : config.inline <;>
          simp [write, Statement.bind, Statement.append, Statement.attach, Piece.bound, mode]
      | _ => simp [write, Statement.append, Statement.attach, Piece.bound]
    show ((draft.write config piece).writeAll config rest).statement.arguments = _
    rw [ih, first, List.append_assoc]
    rfl

end Sqlwright
