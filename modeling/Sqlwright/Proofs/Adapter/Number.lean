import Mathlib
import Sqlwright.Proofs.Adapter.Failure
import Sqlwright.Proofs.Adapter.Reply
import Sqlwright.Proofs.Value.Number

/-! The numbers that inserts and aggregates return, against the numbers that the cells of the reply
stand for. A number that is no integer of 64 bits is a fault of the reply, unless its cell is one of
those that bend. -/
namespace Sqlwright

namespace Row

def Brings (row : Row) (id : Int64) : Prop :=
  ∃ value number, row.head? = some value ∧ value.rational? = some number ∧
    (¬ value.Bends number → number = id.toInt)

def Unfit (row : Row) (value : Value) : Prop :=
  row.head? = some value ∧
    ∃ number, value.rational? = some number ∧ ¬ Integer.Fits number ∧ ¬ value.Bends number

theorem brings {row : Row} {id : Int64} (numbered : row.number? = some id) : row.Brings id := by
  obtain ⟨value, first, read⟩ := Option.bind_eq_some_iff.mp numbered
  obtain ⟨number, denotes, same⟩ := Value.integerDenotes read
  exact ⟨value, number, first, denotes, same⟩

theorem unfitFault {row : Row} {value : Value} (unfit : row.Unfit value) (index : Nat) :
    row.head? ≠ some .null ∧ row.fault? index = some (.notInteger value) := by
  obtain ⟨first, number, denotes, outside, straight⟩ := unfit
  have unread := Value.unfitUnread denotes outside straight
  cases value with
  | null => cases denotes
  | _ => simp [fault?, first, unread]

end Row

namespace Session

variable {σ : Type}

theorem leadingBrings {rows : List Row} {total : Int64} (read : leading rows = .ok total) :
    (total = 0 ∧ ∀ row ∈ rows.head?, row.head? = some .null) ∨
      ∃ row ∈ rows.head?, row.Brings total := by
  cases rows with
  | nil => exact .inl ⟨(Except.ok.inj read).symm, by simp⟩
  | cons row rest =>
    cases row.reads 0 with
    | number id brings =>
      have same := (Reply.leadingNumbered ⟨row, rfl, brings⟩).symm.trans read
      cases Except.ok.inj same
      exact .inr ⟨row, rfl, Row.brings brings⟩
    | null _ _ empty =>
      have same := (Reply.leadingUnnumbered (.inr (.inl ⟨row, rfl, empty⟩))).symm.trans read
      exact .inl ⟨(Except.ok.inj same).symm, by simpa using empty⟩
    | wrong reason _ fault filled =>
      cases (Reply.leadingUndecoded ⟨row, rfl, filled, fault⟩).symm.trans read

theorem unfitUndecoded {rows : List Row} {row : Row} (first : rows.head? = some row) {value : Value}
    (unfit : row.Unfit value) : Reply.Undecoded rows (.notInteger value) :=
  ⟨row, first, Row.unfitFault unfit 0⟩

variable {session : Session σ} {rows : List Row}

theorem insertBrings {insert : Insert} (asked : insert.primary ≠ "")
    (answers : session.Answers insert.pieces rows) :
    (∀ id, (session.insert insert).1 = .ok (some id) → ∃ row ∈ rows.head?, row.Brings id) ∧
      ∀ row ∈ rows.head?, ∀ value, row.Unfit value →
        (session.insert insert).1 = .error (.error (.decode 0 (.notInteger value))) := by
  have sorts := insertSorts asked answers
  constructor
  · intro id returned
    obtain ⟨_, same, -, row, first, numbered⟩ := (sorts.numbered (some id)).mp returned
    cases same
    exact ⟨row, first, Row.brings numbered⟩
  · intro row first value unfit
    exact (sorts.undecoded _).mpr (unfitUndecoded first unfit)

theorem insertAllBrings {insert : BulkInsert} (asked : insert.primary ≠ "")
    (filled : insert.rows ≠ []) (answers : session.Answers insert.pieces rows) :
    (∀ ids, (session.insertAll insert).1 = .ok ids → List.Forall₂ Row.Brings rows ids) ∧
      ∀ row ∈ rows, ∀ value, row.Unfit value →
        ∃ reason, (session.insertAll insert).1 = .error (.error (.decode 0 reason)) := by
  have sorts := insertAllSorts asked filled answers
  constructor
  · intro ids returned
    obtain ⟨-, numbers⟩ := (sorts.numbered ids).mp returned
    have numbered : List.Forall₂ (fun row id => row.number? = some id) rows ids := by
      rw [← List.forall₂_eq_eq_eq, List.forall₂_map_left_iff, List.forall₂_map_right_iff] at numbers
      exact numbers
    exact numbered.imp fun _ _ => Row.brings
  · intro row listed value unfit
    have missing : row.number? = none := Row.faultless (Row.unfitFault unfit 0).2
    rcases Reply.numbersOrFault rows with ⟨found, numbers⟩ | ⟨reason, fault⟩
    · have member : row.number? ∈ found.map some := numbers ▸ List.mem_map_of_mem listed
      rw [missing] at member
      simp at member
    · exact ⟨reason, (sorts.undecoded reason).mpr fault⟩

theorem aggregateAnswered {query : Query} {mode field : String}
    (answered : (session.connection.fetch (session.aggregateStatement query mode field)
      session.state).1 = .ok rows) :
    (session.aggregate query mode field).1 = (leading rows).mapError .error := by
  let ready : Session σ := { session with dialect := (session.dialect.escape field).2 }
  have answers : ready.Answers (session.aggregateQuery query mode field).statementPieces rows :=
    answered
  obtain ⟨later, -, fetched⟩ := fetchAnswered answers
  have queried : ready.query (session.aggregateQuery query mode field) = (.ok rows, later) :=
    fetched
  rw [aggregateQuery] at queried
  simp only [aggregate]
  rw [queried]
  show (later.decoded (leading rows)).1 = (leading rows).mapError .error
  cases leading rows <;> rfl

theorem aggregateBrings {query : Query} {mode field : String}
    (answered : (session.connection.fetch (session.aggregateStatement query mode field)
      session.state).1 = .ok rows) :
    (∀ total, (session.aggregate query mode field).1 = .ok total →
      (total = 0 ∧ ∀ row ∈ rows.head?, row.head? = some .null) ∨
        ∃ row ∈ rows.head?, row.Brings total) ∧
      ∀ row ∈ rows.head?, ∀ value, row.Unfit value →
        (session.aggregate query mode field).1 =
          .error (.error (.decode 0 (.notInteger value))) := by
  rw [aggregateAnswered answered]
  constructor
  · intro total returned
    cases read : leading rows with
    | error error => simp [read, Except.mapError] at returned
    | ok own =>
      rw [read] at returned
      cases returned
      exact leadingBrings read
  · intro row first value unfit
    rw [Reply.leadingUndecoded (unfitUndecoded first unfit)]
    rfl

end Session

theorem integersStandForNumbers {σ : Type} (session : Session σ) (rows : List Row) :
    (∀ (value : Value) (n : Int64), value.integer? = some n →
      ∃ number, value.rational? = some number ∧ (¬ value.Bends number → number = n.toInt)) ∧
    (∀ (value : Value) number, value.rational? = some number → ¬ Integer.Fits number →
      ¬ value.Bends number → value.integer? = none) ∧
    (∀ (value : Value) number, value.rational? = some number → value.Bends number →
      ¬ Integer.Fits number ∧
        value.integer? = some (Int64.ofInt (Integer.clamp (wholePart number)))) ∧
    (∀ (value : Value) (n : Int64), value.rational? = some (n.toInt : ℚ) →
      value.integer? = some n ∨ ∃ text, value = .string text ∧ '.' ∈ text.toList) ∧
    (∀ insert : Insert, insert.primary ≠ "" → session.Answers insert.pieces rows →
      (∀ id, (session.insert insert).1 = .ok (some id) → ∃ row ∈ rows.head?, row.Brings id) ∧
      ∀ row ∈ rows.head?, ∀ value, row.Unfit value →
        (session.insert insert).1 = .error (.error (.decode 0 (.notInteger value)))) ∧
    (∀ insert : BulkInsert, insert.primary ≠ "" → insert.rows ≠ [] →
      session.Answers insert.pieces rows →
      (∀ ids, (session.insertAll insert).1 = .ok ids → List.Forall₂ Row.Brings rows ids) ∧
      ∀ row ∈ rows, ∀ value, row.Unfit value →
        ∃ reason, (session.insertAll insert).1 = .error (.error (.decode 0 reason))) ∧
    ∀ (query : Query) (mode field : String),
      (session.connection.fetch (session.aggregateStatement query mode field)
        session.state).1 = .ok rows →
      (∀ total, (session.aggregate query mode field).1 = .ok total →
        (total = 0 ∧ ∀ row ∈ rows.head?, row.head? = some .null) ∨
          ∃ row ∈ rows.head?, row.Brings total) ∧
      ∀ row ∈ rows.head?, ∀ value, row.Unfit value →
        (session.aggregate query mode field).1 =
          .error (.error (.decode 0 (.notInteger value))) :=
  ⟨fun _ _ => Value.integerDenotes, fun _ _ => Value.unfitUnread, fun _ _ => Value.bentRead,
    fun _ _ => Value.wholeRead, fun _ => Session.insertBrings, fun _ => Session.insertAllBrings,
    fun _ _ _ => Session.aggregateBrings⟩

theorem seatNumbersRead :
    let beyond : Value := .decimal ⟨9223372036854775808, 0, by decide, by decide⟩
    let broken : Value := .string "8.5"
    let half : Value := .decimal ⟨15, 1, by decide, by decide⟩
    let three : Value := .decimal ⟨300, 2, by decide, by decide⟩
    let one : Insert := ⟨"seat", "id", .ofList [("row", .set (.int 2))]⟩
    let several : BulkInsert := ⟨"seat", "id", ["row"], [one.changes, one.changes]⟩
    let query := Query.ofTable "seat"
    let session := fun rows => Session.start .standard Script.connection ⟨[.rows rows], []⟩
    let reply : List Row := [[beyond, .int 4], [.int 7]]
    let later : List Row := [[.int 7], [broken]]
    (∃ number, (Value.string " +12 ").rational? = some number ∧ number = 12) ∧
    three.integer? = some 3 ∧ broken.integer? = none ∧
    (¬ Integer.Fits (3 / 2) ∧ half.Bends (3 / 2) ∧
      half.integer? = some (Int64.ofInt (Integer.clamp (wholePart (3 / 2))))) ∧
    one.primary ≠ "" ∧ several.primary ≠ "" ∧ several.rows ≠ [] ∧
    (session reply).Answers one.pieces reply ∧ (session later).Answers several.pieces later ∧
    ((session reply).insert one).1 = .error (.error (.decode 0 (.notInteger beyond))) ∧
    (∃ reason, ((session later).insertAll several).1 = .error (.error (.decode 0 reason))) ∧
    ((session reply).aggregate query "SUM" "fare").1 =
      .error (.error (.decode 0 (.notInteger beyond))) := by
  intro beyond broken half three one several query session reply later
  obtain ⟨exact, refused, bent, whole, inserts, _, aggregates⟩ :=
    integersStandForNumbers (session reply) reply
  obtain ⟨_, _, _, _, _, insertsAll, _⟩ := integersStandForNumbers (session later) later
  have asked : one.primary ≠ "" := by decide
  have askedAll : several.primary ≠ "" := by decide
  have filled : several.rows ≠ [] := by decide
  have twelve : (Value.string " +12 ").integer? = some 12 := by decide +kernel
  have eight : broken.rational? = some (17 / 2) := by decide +kernel
  have bends : half.Bends (3 / 2) := ⟨by decide +kernel, by decide +kernel⟩
  have straight : ¬ beyond.Bends 9223372036854775808 := fun bends => bends.1 (by decide +kernel)
  have unfit : Row.Unfit [beyond, .int 4] beyond :=
    ⟨rfl, 9223372036854775808, by decide +kernel, by decide +kernel, straight⟩
  have unread : Row.Unfit [broken] broken :=
    ⟨rfl, 17 / 2, eight, by decide +kernel, not_false⟩
  obtain ⟨number, denotes, same⟩ := exact (.string " +12 ") 12 twelve
  refine ⟨⟨number, denotes, same not_false⟩, ?_,
    refused broken _ eight (by decide +kernel) not_false,
    ⟨(bent half _ (by decide +kernel) bends).1, bends, (bent half _ (by decide +kernel) bends).2⟩,
    asked, askedAll, filled, rfl, rfl,
    (inserts one asked rfl).2 _ rfl beyond unfit,
    (insertsAll several askedAll filled rfl).2 [broken] (by simp [later]) broken unread,
    (aggregates query "SUM" "fare" rfl).2 _ rfl beyond unfit⟩
  rcases whole three 3 (by decide +kernel) with read | ⟨text, other, _⟩
  · exact read
  · simp [three] at other

theorem halfTaken :
    let half : Value := .decimal ⟨15, 1, by decide, by decide⟩
    let huge : Value := .float ⟨0x43e158e460913d00#64⟩
    let one : Insert := ⟨"seat", "id", .ofList [("row", .set (.int 2))]⟩
    let several : BulkInsert := ⟨"seat", "id", ["row"], [one.changes]⟩
    let session := fun value : Value =>
      Session.start .standard Script.connection ⟨[.rows [[value]]], []⟩
    half.rational? = some (3 / 2) ∧ half.integer? = some 1 ∧
    huge.rational? = some 10000000000000000000 ∧ huge.integer? = some 9223372036854775807 ∧
    ((session half).insert one).1 = .ok (some 1) ∧
    ((session half).insertAll several).1 = .ok [1] ∧
    ((session huge).aggregate (Query.ofTable "seat") "SUM" "fare").1 =
      .ok 9223372036854775807 := by
  intro half huge one several session
  refine ⟨by decide +kernel, by decide +kernel, by decide +kernel, by decide +kernel, ?_, ?_, ?_⟩
  · rfl
  · rfl
  · rfl

end Sqlwright
