import Sqlwright.Proofs.Dialect.Return

/-! Where a table stops a dialect. The columns of a created table are written out whatever their
operation, so each default that clashes with its column stops it. An altered table is written out up
to the first definition that is refused, and only a clash before that is reached. -/
namespace Sqlwright
open Identifier (Form)

namespace Table

def Reaches (definitions : List Definition) : Prop :=
  ∃ before column after, definitions = before ++ .column column :: after ∧
    column.operation = .create ∧ column.Clashes ∧
    ∀ definition ∈ before, ¬ definition.Unsupported

def Stops (table : Table) : Prop :=
  match table.operation with
  | .create => ∃ column, .column column ∈ table.definitions ∧ column.Clashes
  | .alter => Reaches table.definitions
  | .rename | .drop => False

theorem reachesCons {definition : Definition} {rest : List Definition} :
    Reaches (definition :: rest) ↔
      (∃ column ∈ definition.column? .alter, column.Clashes) ∨
        ¬ definition.Unsupported ∧ Reaches rest := by
  constructor
  · rintro ⟨before, column, after, split, added, clashes, supported⟩
    cases before with
    | nil =>
      cases split
      exact .inl ⟨column, if_pos added, clashes⟩
    | cons first more =>
      obtain ⟨rfl, later⟩ := List.cons.inj split
      obtain ⟨here, behind⟩ := List.forall_mem_cons.mp supported
      exact .inr ⟨here, more, column, after, later, added, clashes, behind⟩
  · rintro (⟨column, written, clashes⟩ | ⟨here, before, column, after, split, added, clashes,
      supported⟩)
    · have same := Definition.columnSource written
      subst same
      have added : column.operation = .create := by
        by_contra other
        simp [Definition.column?, other] at written
      exact ⟨[], column, rest, rfl, added, clashes, by simp⟩
    · exact ⟨definition :: before, column, after, by rw [split]; rfl, added, clashes,
        List.forall_mem_cons.mpr ⟨here, supported⟩⟩

theorem definitionStops {definition : Definition}
    (reached : ∃ column ∈ definition.column? .alter, column.Clashes) (table : Table) :
    ∃ value layout, (definition.alterSketch Column.nativeType table).obstacle? =
      some (.unprintable value layout) := by
  obtain ⟨column, written, clashes⟩ := reached
  obtain ⟨value, layout, stopped⟩ := Column.nativeStopped clashes
  refine ⟨value, layout, ?_⟩
  rw [Definition.obstacleOfAlter, Option.mem_def.mp written, Option.bind_some, stopped,
    Option.some_or]

theorem alteredReaches (table : Table) (definitions : List Definition) :
    let first := definitions.findSome? fun definition =>
      (definition.alterSketch Column.nativeType table).obstacle?
    (Reaches definitions ∧ ∃ value layout, first = some (.unprintable value layout)) ∨
      (¬ Reaches definitions ∧
        first = (definitions.findSome? (Definition.rejection? table.name)).map .rejected) := by
  induction definitions with
  | nil =>
    refine .inr ⟨?_, rfl⟩
    rintro ⟨before, column, after, split, -⟩
    simp at split
  | cons definition rest ih =>
    rw [reachesCons]
    by_cases reached : ∃ column ∈ definition.column? .alter, column.Clashes
    · obtain ⟨value, layout, stopped⟩ := definitionStops reached table
      exact .inl ⟨.inl reached, value, layout, by rw [List.findSome?_cons, stopped]⟩
    · have here := definition.obstacleAlter Column.nativeType
        (fun column written => Column.nativeUnstopped fun clashes =>
          reached ⟨column, written, clashes⟩) table
      cases refused : definition.rejection? table.name with
      | some reason =>
        have unsupported : definition.Unsupported :=
          Definition.rejectionSome.mp (Option.isSome_iff_exists.mpr ⟨reason, refused⟩)
        exact .inr ⟨fun reaches => reaches.elim reached fun later => later.1 unsupported,
          by simp [here, refused]⟩
      | none =>
        have supported : ¬ definition.Unsupported := fun unsupported => by
          have some := (@Definition.rejectionSome table.name definition).mpr unsupported
          simp [refused] at some
        rw [or_iff_right reached, and_iff_right supported]
        simpa [here, refused] using ih

theorem createdStops {table : Table} (created : table.operation = .create) :
    ((∃ column, .column column ∈ table.definitions ∧ column.Clashes) ∧ ∃ value layout,
      (table.sketch Column.nativeType).obstacle? = some (.unprintable value layout)) ∨
    ((¬ ∃ column, .column column ∈ table.definitions ∧ column.Clashes) ∧
      (table.sketch Column.nativeType).obstacle? = none) := by
  rw [obstacleOfCreate _ created]
  cases found : table.definitions.findSome? fun definition =>
      (definition.sketch Column.nativeType).obstacle? with
  | none =>
    refine .inr ⟨?_, rfl⟩
    rintro ⟨column, defined, clashes⟩
    obtain ⟨value, layout, stopped⟩ := Column.nativeStopped clashes
    cases stopped.symm.trans (List.findSome?_eq_none_iff.mp found _ defined)
  | some obstacle =>
    obtain ⟨definition, defined, stopped⟩ := List.exists_of_findSome?_eq_some found
    cases definition with
    | column c =>
      by_cases clashes : c.Clashes
      · obtain ⟨value, layout, clash⟩ := Column.nativeStopped clashes
        exact .inl ⟨⟨c, defined, clashes⟩, value, layout, stopped.symm.trans clash⟩
      · cases stopped.symm.trans (Column.nativeUnstopped clashes)
    | key k => cases stopped
    | raw sql => cases stopped

theorem stopsOrReturns (table : Table) :
    (table.Stops ∧ ∃ value layout,
      (table.sketch Column.nativeType).obstacle? = some (.unprintable value layout)) ∨
    (¬ table.Stops ∧
      (table.sketch Column.nativeType).obstacle? = table.rejection?.map .rejected) := by
  cases operation : table.operation with
  | create => simpa [Stops, rejection?, operation] using createdStops operation
  | alter =>
    have reaches := alteredReaches table table.definitions
    rw [← obstacleOfAlter _ operation] at reaches
    simpa only [Stops, rejection?, operation, if_pos] using reaches
  | rename => exact .inr ⟨by simp [Stops, operation], by simp [sketch, rejection?, operation]; rfl⟩
  | drop => exact .inr ⟨by simp [Stops, operation], by simp [sketch, rejection?, operation]; rfl⟩

end Table

theorem Returned.printable {rejection? : Option Rejection} {result : Except Obstacle Statement}
    (returned : Returned rejection? result) (value : Value) (layout : Layout) :
    result ≠ .error (.unprintable value layout) := by
  rintro rfl
  cases rejection? with
  | some reason => cases returned
  | none =>
    obtain ⟨statement, same⟩ := returned
    cases same

theorem clashStopsTable (config : Config) (history : List Command) (table : Table) :
    let result := (((Dialect.new config Column.nativeType).after history).run (.table table)).1
    ((∃ value layout, result = .error (.unprintable value layout)) ↔ table.Stops) ∧
    (table.Stops ∨ Returned table.rejection? result) ∧
    ∀ bypass field, Form.found? bypass field = some (.of bypass field) := by
  intro result
  have outcome : result = (table.sketch Column.nativeType).outcome config :=
    Dialect.returnAfter config Column.nativeType history (.table table)
  rw [outcome]
  rcases table.stopsOrReturns with ⟨stops, value, layout, stopped⟩ | ⟨returns, stops⟩
  · have failed : (table.sketch Column.nativeType).outcome config =
        .error (.unprintable value layout) := by simp [Sketch.outcome, stopped]
    exact ⟨iff_of_true ⟨value, layout, failed⟩ stops, .inl stops, Form.foundOf⟩
  · have returned := Sketch.returned config stops
    have goesOn : ¬ ∃ value layout, (table.sketch Column.nativeType).outcome config =
        .error (.unprintable value layout) := by
      rintro ⟨value, layout, failed⟩
      exact returned.printable value layout failed
    exact ⟨iff_of_false goesOn returns, .inr returned, Form.foundOf⟩

theorem seasonStops :
    let clash := Definition.column (.starting .dateTime (.date .springDay))
    let refused := Definition.key ⟨.unique, .drop, "uq", ["no"], "", "", none⟩
    let altered := fun definitions => Table.mk .alter "season" "" false "" definitions
    let run := fun table => (Dialect.standard.run (.table table)).1
    (altered [clash, refused]).Stops ∧ ¬ (altered [refused, clash]).Stops ∧
    (∃ value layout, run (altered [clash, refused]) = .error (.unprintable value layout)) ∧
    run (altered [refused, clash]) = .error (.rejected (.keyOperation .drop "uq" "season")) := by
  intro clash refused altered run
  have first : (altered [clash, refused]).Stops := ⟨[], _, [refused], rfl, rfl, by decide, by simp⟩
  have behind : ¬ (altered [refused, clash]).Stops := by
    have unsupported : refused.Unsupported := by decide
    show ¬ Table.Reaches [refused, clash]
    rw [Table.reachesCons]
    rintro (⟨_, written, _⟩ | ⟨supported, _⟩)
    · cases written
    · exact supported unsupported
  exact ⟨first, behind, (clashStopsTable {} [] (altered [clash, refused])).1.mpr first,
    (clashStopsTable {} [] (altered [refused, clash])).2.1.resolve_left behind⟩

end Sqlwright
