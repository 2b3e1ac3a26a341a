import Mathlib.Data.List.Forall2
import Sqlwright.Proofs.Statement.Site

/-! Shapes: what is left when every value is replaced by null and every list keeps its length.
As long as values are bound, the text of pieces is that of their shape. -/
namespace Sqlwright

def Value.shape (_ : Value) : Value := .null

def Value.Paired (values others : List Value) (value other : Value) : Prop :=
  (value, other) ∈ values.zip others

def Site.shape (site : Site) : Site := { site with value := site.value.shape }

namespace Piece

def shape : Piece → Piece
  | .value item => .value item.shape
  | .arguments items => .arguments (items.map Value.shape)
  | piece => piece

def shapes (pieces : List Piece) : List Piece := pieces.map shape

theorem shapesAppend (first second : List Piece) :
    shapes (first ++ second) = shapes first ++ shapes second :=
  List.map_append

theorem shapesSeparated (word : String) (parts : List (List Piece)) :
    shapes (separated word parts) = separated word (parts.map shapes) := by
  unfold separated
  induction parts with
  | nil => rfl
  | cons part rest ih =>
    cases rest with
    | nil => simp [shapes]
    | cons next later =>
      rw [List.map_cons, List.map_cons, List.intercalate_cons_cons, List.intercalate_cons_cons,
        shapesAppend, shapesAppend, ih]
      rfl

theorem shapesEnclosed (body : List Piece) :
    shapes (enclosed body) = enclosed (shapes body) := by
  simp [enclosed, shapes, shape]

theorem shapesWithoutSites {pieces : List Piece} (none : allSites pieces = []) :
    shapes pieces = pieces := by
  induction pieces with
  | nil => rfl
  | cons piece rest ih =>
    obtain ⟨here, later⟩ := List.append_eq_nil_iff.mp none
    have same : piece.shape = piece := by
      cases piece <;> simp_all [sites, Site.loose, shape]
    show piece.shape :: shapes rest = _
    rw [same, ih later]

theorem shapesValues (items : List Value) :
    shapes (values items) = values (items.map Value.shape) := by
  rw [values, shapesSeparated, values, List.map_map, List.map_map]
  rfl

theorem boundShape {config : Config} (binds : config.inline = false) (piece : Piece) :
    (piece.shape.bound config).length = (piece.bound config).length := by
  cases piece <;> simp [shape, bound, binds]

theorem joinedShape {config : Config} (binds : config.inline = false) (count : Nat)
    (piece : Piece) : Token.joined config (piece.shape.tokens config count) =
      Token.joined config (piece.tokens config count) := by
  cases piece <;> simp [shape, tokens, binds, Token.joined, Token.sql]

theorem joinedShapes {config : Config} (binds : config.inline = false) (count : Nat)
    (pieces : List Piece) : Token.joined config (allTokens config count (shapes pieces)) =
      Token.joined config (allTokens config count pieces) := by
  induction pieces generalizing count with
  | nil => rfl
  | cons piece rest ih =>
    show Token.joined config (allTokens config count (piece.shape :: shapes rest)) = _
    rw [allTokens, allTokens, Token.joinedAppend, Token.joinedAppend, joinedShape binds,
      boundShape binds, ih]

end Piece

namespace Value

theorem pairedAppend {values others : List Value} (same : values.length = others.length)
    {more rest : List Value} {value other : Value}
    (paired : Paired values others value other ∨ Paired more rest value other) :
    Paired (values ++ more) (others ++ rest) value other := by
  rw [Paired, List.zip_append same]
  exact List.mem_append.mpr paired

end Value

namespace Site

theorem shapesLoose (values : List Value) :
    (loose values).map shape = loose (values.map Value.shape) := by
  rw [loose, List.map_map, loose, List.map_map]
  rfl

theorem shapesUnused (sites : List Site) :
    (unused sites).map shape = unused (sites.map shape) := by
  rw [unused, List.map_map, unused, List.map_map]
  rfl

theorem shapesUnusedIf (absent : Bool) (sites : List Site) :
    (unusedIf absent sites).map shape = unusedIf absent (sites.map shape) := by
  cases absent
  · rfl
  · exact shapesUnused sites

theorem boundPaired {sites others : List Site} (alike : sites.map shape = others.map shape) :
    List.Forall₂ (Value.Paired (sites.map value) (others.map value))
      ((bound sites).map value) ((bound others).map value) := by
  induction sites generalizing others with
  | nil =>
    have none : others = [] := by simpa using alike.symm
    rw [none]
    exact .nil
  | cons site rest ih =>
    cases others with
    | nil => cases alike
    | cons other later =>
      obtain ⟨first, tail⟩ := List.cons.inj alike
      have kept : other.isBound = site.isBound := by
        show other.shape.isBound = site.shape.isBound
        rw [first]
      have more : List.Forall₂ (Value.Paired ((site :: rest).map value)
          ((other :: later).map value)) ((bound rest).map value) ((bound later).map value) :=
        (ih tail).imp fun _ _ => List.mem_cons_of_mem _
      cases mode : site.isBound with
      | true =>
        rw [bound, bound, List.filter_cons_of_pos mode,
          List.filter_cons_of_pos (kept.trans mode)]
        exact .cons List.mem_cons_self more
      | false =>
        rw [bound, bound, List.filter_cons_of_neg (by simp [mode]),
          List.filter_cons_of_neg (by simp [kept, mode])]
        exact more

end Site

end Sqlwright
