import Sqlwright.Proofs.Query.NormalForm

/-! The words of a filter: parentheses, negations, junctions and leaves. A leaf is a predicate
with everything in it, the queries in its lists included. What is appended for a filter is the
texts of its words, one behind the other. -/
namespace Sqlwright

def Filter.isLeaf : Filter → Bool
  | .and _ | .or _ | .not _ => false
  | _ => true

structure Leaf where
  filter : Filter
  single : filter.isLeaf = true

inductive Word where
  | opens | closes | negates
  | joins (junction : Junction)
  | leaf (leaf : Leaf)

namespace Word

def pieces : Word → List Piece
  | .opens => [.text "("]
  | .closes => [.text ")"]
  | .negates => [.text "NOT "]
  | .joins junction => [.text junction.sql]
  | .leaf l => l.filter.pieces

def allPieces (words : List Word) : List Piece := words.flatMap pieces

/-- A leaf is numbered from the values bound before it. -/
def text (config : Config) (count : Nat) : Word → String
  | .opens => "("
  | .closes => ")"
  | .negates => "NOT "
  | .joins .and => " AND "
  | .joins .or => " OR "
  | .leaf l => Token.joined config (Piece.allTokens config count l.filter.pieces)

def bound (config : Config) : Word → List Value
  | .leaf l => Piece.allBound config l.filter.pieces
  | _ => []

def allText (config : Config) : Nat → List Word → String
  | _, [] => ""
  | count, word :: rest =>
      word.text config count ++ allText config (count + (word.bound config).length) rest

def allBound (config : Config) (words : List Word) : List Value := words.flatMap (bound config)

def enclosed (body : List Word) : List Word := .opens :: body ++ [.closes]

def joined (junction : Junction) (parts : List (List Word)) : List Word :=
  [Word.joins junction].intercalate parts

def grouped (junction : Junction) (parts : List (List Word)) : List Word :=
  if 1 < parts.length then enclosed (joined junction parts) else joined junction parts

theorem joinedOne (junction : Junction) (part : List Word) : joined junction [part] = part :=
  List.intercalate_singleton

theorem joinedMore (junction : Junction) (part next : List Word) (later : List (List Word)) :
    joined junction (part :: next :: later) =
      part ++ .joins junction :: joined junction (next :: later) := by
  rw [joined, List.intercalate_cons_cons, List.append_assoc]
  rfl

theorem joinedPieces (junction : Junction) (parts : List (List Word)) :
    allPieces (joined junction parts) = Piece.separated junction.sql (parts.map allPieces) := by
  induction parts with
  | nil => rfl
  | cons part rest ih =>
    cases rest with
    | nil => simp [joinedOne, Piece.separated]
    | cons next later =>
      rw [joinedMore, List.map_cons, List.map_cons, Piece.separated, List.intercalate_cons_cons,
        ← List.map_cons, ← Piece.separated, ← ih]
      simp [allPieces, pieces]

theorem groupedPieces (junction : Junction) (parts : List (List Word)) :
    allPieces (grouped junction parts) = Piece.grouped junction.sql (parts.map allPieces) := by
  unfold grouped Piece.grouped
  rw [List.length_map, ← joinedPieces]
  split
  · simp [enclosed, Piece.enclosed, allPieces, pieces]
  · rfl

theorem textOfPieces (config : Config) (count : Nat) (word : Word) :
    Token.joined config (Piece.allTokens config count word.pieces) = word.text config count := by
  cases word with
  | leaf l => rfl
  | joins junction => cases junction <;> exact String.append_empty
  | _ => exact String.append_empty

theorem boundOfPieces (config : Config) (word : Word) :
    Piece.allBound config word.pieces = word.bound config := by
  cases word <;> rfl

theorem allTextOfPieces (config : Config) (count : Nat) (words : List Word) :
    Token.joined config (Piece.allTokens config count (allPieces words)) =
      allText config count words := by
  induction words generalizing count with
  | nil => rfl
  | cons word rest ih =>
    rw [allText, ← textOfPieces, ← boundOfPieces, ← ih, ← Token.joinedAppend,
      ← Piece.allTokensAppend]
    rfl

theorem allBoundOfPieces (config : Config) (words : List Word) :
    Piece.allBound config (allPieces words) = allBound config words := by
  rw [allBound, ← funext (boundOfPieces config), Piece.allBound, allPieces, List.flatMap_assoc]
  rfl

end Word

mutual

def Filter.words : Filter → List Word
  | .and children => Word.grouped .and (Filter.wordParts children)
  | .or children => Word.grouped .or (Filter.wordParts children)
  | .not children =>
      if Filter.allEmpty children then []
      else .negates :: Word.grouped .and (Filter.wordParts children)
  | .compare field comparison operand => [.leaf ⟨.compare field comparison operand, rfl⟩]
  | .null field negated => [.leaf ⟨.null field negated, rfl⟩]
  | .among field operands negated => [.leaf ⟨.among field operands negated, rfl⟩]
  | .like field pattern negated => [.leaf ⟨.like field pattern negated, rfl⟩]
  | .fragment sql values => [.leaf ⟨.fragment sql values, rfl⟩]
termination_by structural filter => filter

def Filter.wordParts : List Filter → List (List Word)
  | [] => []
  | child :: rest =>
      if child.isEmpty then Filter.wordParts rest else child.words :: Filter.wordParts rest
termination_by structural children => children

end

mutual

theorem Filter.wordsPieces : ∀ filter : Filter, Word.allPieces filter.words = filter.pieces
  | .and children => by
      rw [Filter.words, Word.groupedPieces, Filter.wordPartsPieces, Filter.pieces]
      rfl
  | .or children => by
      rw [Filter.words, Word.groupedPieces, Filter.wordPartsPieces, Filter.pieces]
      rfl
  | .not children => by
      rw [Filter.words, Filter.pieces, Piece.clause]
      split
      · rfl
      · rw [← Filter.wordPartsPieces]
        exact congrArg (Piece.text "NOT " :: ·) (Word.groupedPieces .and _)
  | .compare .. => List.append_nil _
  | .null .. => List.append_nil _
  | .among .. => List.append_nil _
  | .like .. => List.append_nil _
  | .fragment .. => List.append_nil _
termination_by structural filter => filter

theorem Filter.wordPartsPieces : ∀ children : List Filter,
    (Filter.wordParts children).map Word.allPieces = Filter.writtenParts children
  | [] => rfl
  | child :: rest => by
      rw [Filter.wordParts, Filter.writtenParts, ← Filter.wordPartsPieces rest]
      split
      · rfl
      · rw [List.map_cons, Filter.wordsPieces child]
termination_by structural children => children

end

structure Filter.Worded (config : Config) (draft : Draft) (filter : Filter) : Prop where
  sql : (draft.writeAll config filter.pieces).statement.sql =
    draft.statement.sql ++ Word.allText config draft.statement.arguments.length filter.words
  arguments : (draft.writeAll config filter.pieces).statement.arguments =
    draft.statement.arguments ++ Word.allBound config filter.words

theorem Filter.worded {draft : Draft} (sound : draft.cache.Sound) (config : Config)
    (filter : Filter) : filter.Worded config draft := by
  have written := (Draft.writeAllExtends sound config filter.pieces).1
  constructor
  · rw [written, Statement.extended, ← wordsPieces, Word.allTextOfPieces]
  · rw [written, Statement.extended, ← wordsPieces, Word.allBoundOfPieces]

end Sqlwright
