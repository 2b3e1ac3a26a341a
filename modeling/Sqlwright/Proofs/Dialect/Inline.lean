import Mathlib
import Sqlwright.Proofs.Dialect.Literal
import Sqlwright.Proofs.Schema.Index
import Sqlwright.Proofs.Statement.Shape
import Sqlwright.Proofs.Value.Literal

/-! Statements that write their values out. Two of one shape, with values of the same kinds, have
one text just if every value of the one is told as the value at its place in the other: a filter
states nothing of another value than its own, but for what a clock does not show of a time. -/
namespace Sqlwright

namespace Piece

def value? : Piece → Option Value
  | .value item => some item
  | _ => none

def placed (pieces : List Piece) : List Value := pieces.filterMap value?

variable {config : Config} {mark : Char} {pieces others : List Piece}

theorem valueOrAlike (config : Config) {piece other : Piece} (alike : piece.shape = other.shape) :
    (∃ own another, piece = .value own ∧ other = .value another) ∨
      piece.value? = none ∧ other.value? = none ∧ ∀ count number,
        piece.tokens config.inlined count = other.tokens config.inlined number := by
  cases piece <;> cases other <;> simp_all [shape, value?, tokens]

theorem opensShape (pieces : List Piece) : opensFenced (shapes pieces) = opensFenced pieces := by
  cases pieces with
  | nil => rfl
  | cons piece rest => cases piece <;> rfl

theorem valueInlined (config : Config) (value : Value) (count : Nat) :
    Token.joined config.inlined ((Piece.value value).tokens config.inlined count) =
      value.literal config := by
  rw [(literalTokens rfl count).1]
  exact String.append_empty

theorem inlinedTold (doubles : config.DoublesQuote mark) (unfenced : mark ∉ fences)
    (alike : shapes pieces = shapes others)
    (kinds : List.Forall₂ Value.SameKind (placed pieces) (placed others))
    (fenced : Fenced pieces) (count number : Nat) :
    Token.joined config.inlined (allTokens config.inlined count pieces) =
        Token.joined config.inlined (allTokens config.inlined number others) ↔
      List.Forall₂ Value.ShownAlike (placed pieces) (placed others) := by
  -- The two texts are read from the front on. A value of the one meets the value at its place in
  -- the other, their literals end together, and what is behind them is compared anew.
  induction pieces generalizing others count number with
  | nil =>
    have none : others = [] := List.map_eq_nil_iff.mp alike.symm
    rw [none]
    exact iff_of_true rfl .nil
  | cons piece rest ih =>
    cases others with
    | nil => cases alike
    | cons other more =>
      obtain ⟨same, later⟩ : piece.shape = other.shape ∧ shapes rest = shapes more :=
        List.cons.inj alike
      obtain ⟨here, behind⟩ := fenced
      rw [allTokens, allTokens, Token.joinedAppend, Token.joinedAppend]
      rcases valueOrAlike config same with ⟨own, another, rfl, rfl⟩ | ⟨none, otherNone, tokens⟩
      · obtain ⟨kind, kinds⟩ := List.forall₂_cons.mp kinds
        have rests := ih later kinds behind
        have opens := here rfl
        have otherOpens : opensFenced more = true := by rwa [← opensShape, ← later, opensShape]
        rw [valueInlined, valueInlined]
        show _ ↔ List.Forall₂ _ (own :: placed rest) (another :: placed more)
        rw [List.forall₂_cons]
        constructor
        · intro texts
          have literals := Value.literalEnds doubles unfenced kind
            (joinedOpens config.inlined _ opens) (joinedOpens config.inlined _ otherOpens)
            (by simpa only [String.toList_append] using congrArg String.toList texts)
          rw [literals, String.append_right_inj, rests] at texts
          exact ⟨(Value.literalSame doubles kind).mp literals, texts⟩
        · rintro ⟨shown, texts⟩
          rw [Value.literalOfShown config shown, (rests _ _).mpr texts]
      · rw [placed, placed, List.filterMap_cons_none none,
          List.filterMap_cons_none otherNone] at kinds ⊢
        rw [tokens count number, String.append_right_inj]
        exact ih later kinds behind _ _

end Piece

theorem inlinedValuesTold {config : Config} {mark : Char} (doubles : config.DoublesQuote mark)
    (unfenced : mark ∉ Piece.fences) (mapper : ColumnMapper) (history : List Command) :
    let dialect := (Dialect.new config mapper).after history
    (∀ value other : Value, value.SameKind other →
      (value.literal config = other.literal config ↔ value.ShownAlike other)) ∧
    ∀ (first second : Command) statement changed,
      first.spells config = true → second.spells config = true →
      (dialect.run first).1 = .ok statement → (dialect.run second).1 = .ok changed →
      Piece.shapes (first.pieces mapper) = Piece.shapes (second.pieces mapper) →
      List.Forall₂ Value.SameKind (Piece.placed (first.pieces mapper))
        (Piece.placed (second.pieces mapper)) →
      (statement.sql = changed.sql ↔
        List.Forall₂ Value.ShownAlike (Piece.placed (first.pieces mapper))
          (Piece.placed (second.pieces mapper))) := by
  intro dialect
  refine ⟨fun _ _ => Value.literalSame doubles, ?_⟩
  intro first second statement changed spelled otherSpelled built otherBuilt alike kinds
  rw [Dialect.returnAfter] at built otherBuilt
  have written := Command.spelledOutcome spelled built
  have otherWritten := Command.spelledOutcome otherSpelled otherBuilt
  rw [Statement.extendedEmpty] at written otherWritten
  rw [written, otherWritten]
  exact Piece.inlinedTold doubles unfenced alike kinds (first.fencedPieces mapper) 0 0

def Time.halfPast : Time := { Time.evening with nano := 500000000, nanoValid := by decide }

def Filter.priced (start : Time) (price : Decimal) : Filter :=
  .and [.compare "starts" .greaterEqual (.value (.time start)),
    .among "price" [.value (.decimal price)] false]

theorem pricesTold :
    let whole : Decimal := ⟨15, 1, by decide, by decide⟩
    let longer : Decimal := ⟨150, 2, by decide, by decide⟩
    let first := Command.index (.filtered (.priced .evening whole))
    let second := Command.index (.filtered (.priced .halfPast longer))
    Config.DoublesQuote {} '\'' ∧ '\'' ∉ Piece.fences ∧
    (Value.time .evening).literal {} = (Value.time .halfPast).literal {} ∧
    Piece.shapes (first.pieces Column.nativeType) = Piece.shapes (second.pieces Column.nativeType) ∧
    ∃ statement changed, (Dialect.standard.run first).1 = .ok statement ∧
      (Dialect.standard.run second).1 = .ok changed ∧ statement.sql ≠ changed.sql := by
  intro whole longer first second
  have doubles : Config.DoublesQuote {} '\'' := ⟨rfl, rfl⟩
  have unfenced : '\'' ∉ Piece.fences := by decide
  obtain ⟨literals, statements⟩ := inlinedValuesTold doubles unfenced Column.nativeType []
  have alike : Piece.shapes (first.pieces Column.nativeType) =
      Piece.shapes (second.pieces Column.nativeType) := rfl
  have kinds : List.Forall₂ Value.SameKind (Piece.placed (first.pieces Column.nativeType))
      (Piece.placed (second.pieces Column.nativeType)) :=
    .cons (.time .evening .halfPast) (.cons (.decimal whole longer) .nil)
  obtain ⟨statement, built⟩ := Dialect.standard.writeSchemaOpen
    (show (Index.filtered (.priced .evening whole)).sketch.obstacle? = none from rfl)
  obtain ⟨changed, otherBuilt⟩ := Dialect.standard.writeSchemaOpen
    (show (Index.filtered (.priced .halfPast longer)).sketch.obstacle? = none from rfl)
  refine ⟨doubles, unfenced, ?_, alike, statement, changed, built, otherBuilt, fun same => ?_⟩
  · exact (literals _ _ (.time _ _)).mpr (.time (by decide))
  · have told := (statements first second statement changed rfl rfl built otherBuilt alike
      kinds).mp same
    obtain ⟨-, told⟩ := List.forall₂_cons.mp told
    obtain ⟨price, -⟩ := List.forall₂_cons.mp told
    have own {d e : Decimal} (told : (Value.decimal d).ShownAlike (.decimal e)) : d = e := by
      cases told
      rfl
    exact absurd (own price) (by decide)

theorem halfSecondLost :
    let start (time : Time) := Filter.compare "starts" .equal (.value (.time time))
    Value.time .evening ≠ .time .halfPast ∧
    (Value.time .evening).SameKind (.time .halfPast) ∧
    (Value.time .evening).literal {} = (Value.time .halfPast).literal {} ∧
    Value.dateTime ⟨.springDay, .evening⟩ ≠ .dateTime ⟨.springDay, .halfPast⟩ ∧
    (Value.dateTime ⟨.springDay, .evening⟩).SameKind (.dateTime ⟨.springDay, .halfPast⟩) ∧
    (Value.dateTime ⟨.springDay, .evening⟩).literal {} =
      (Value.dateTime ⟨.springDay, .halfPast⟩).literal {} ∧
    ∃ statement, (Dialect.standard.run (.index (.filtered (start .evening)))).1 = .ok statement ∧
      (Dialect.standard.run (.index (.filtered (start .halfPast)))).1 = .ok statement := by
  intro start
  refine ⟨fun same => ?_, .time _ _, ?_, fun same => ?_, .dateTime _ _, ?_, ?_⟩
  · exact absurd (Value.time.inj same) (by decide)
  · exact Value.literalOfShown {} (.time (by decide))
  · exact absurd (Value.dateTime.inj same) (by decide)
  · exact Value.literalOfShown {} (.dateTime (by decide))
  · obtain ⟨statement, built⟩ := Dialect.standard.writeSchemaOpen
      (show (Index.filtered (start .evening)).sketch.obstacle? = none from rfl)
    refine ⟨statement, built, ?_⟩
    rw [← built]
    rfl

end Sqlwright
