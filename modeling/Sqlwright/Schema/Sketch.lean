import Sqlwright.Error.Basic

/-! Pieces that may end early: what comes after an obstacle is never written, and what comes
before it is. -/
namespace Sqlwright

inductive Obstacle where
  | rejected (reason : Rejection)
  /-- A layout names a part that the value does not have. -/
  | unprintable (value : Value) (layout : Layout)

structure Sketch where
  pieces : List Piece
  obstacle? : Option Obstacle

namespace Sketch

def empty : Sketch := ⟨[], none⟩

def of (pieces : List Piece) : Sketch := ⟨pieces, none⟩

def stopped (pieces : List Piece) (obstacle : Obstacle) : Sketch := ⟨pieces, some obstacle⟩

def append (first second : Sketch) : Sketch :=
  match first.obstacle? with
  | some _ => first
  | none => ⟨first.pieces ++ second.pieces, second.obstacle?⟩

instance : Append Sketch := ⟨append⟩

theorem openAppend (pieces : List Piece) (rest : Sketch) :
    (⟨pieces, none⟩ : Sketch) ++ rest = ⟨pieces ++ rest.pieces, rest.obstacle?⟩ := rfl

theorem stoppedAppend (pieces : List Piece) (obstacle : Obstacle) (rest : Sketch) :
    (⟨pieces, some obstacle⟩ : Sketch) ++ rest = ⟨pieces, some obstacle⟩ := rfl

theorem appendAssoc (a b c : Sketch) : a ++ b ++ c = a ++ (b ++ c) := by
  obtain ⟨pieces, obstacle?⟩ := a
  obtain ⟨more, next?⟩ := b
  cases obstacle? <;> cases next? <;> simp [openAppend, stoppedAppend]

theorem emptyAppend (a : Sketch) : empty ++ a = a := rfl

theorem appendEmpty (a : Sketch) : a ++ empty = a := by
  obtain ⟨pieces, obstacle?⟩ := a
  cases obstacle? <;> simp [openAppend, stoppedAppend, empty]

def all (sketches : List Sketch) : Sketch := sketches.foldr (· ++ ·) empty

theorem allAppend (first second : List Sketch) : all (first ++ second) = all first ++ all second := by
  induction first with
  | nil => exact (emptyAppend _).symm
  | cons head rest ih =>
    show head ++ all (rest ++ second) = head ++ all rest ++ all second
    rw [ih, appendAssoc]

theorem obstacleAll (sketches : List Sketch) :
    (all sketches).obstacle? = sketches.findSome? (·.obstacle?) := by
  induction sketches with
  | nil => rfl
  | cons head rest ih =>
    show (head ++ all rest).obstacle? = _
    obtain ⟨pieces, obstacle?⟩ := head
    cases obstacle? <;> simp [openAppend, stoppedAppend, ih]

def separated (separator : String) (sketches : List Sketch) : Sketch :=
  all (sketches.intersperse (of [.text separator]))

end Sketch

end Sqlwright
