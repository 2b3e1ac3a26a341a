import Sqlwright.Proofs.Adapter.Journal

/-! What inserts make of the rows that come back. Only the first cell of a row is looked at. To a
single insert a missing row, a null and a zero all say that no number was given; to a bulk insert
only a reply without rows does, and a null is the fault of its row. -/
namespace Sqlwright

namespace Row

def number? (row : Row) : Option Int64 := row.head?.bind Value.integer?

def fault? (index : Nat) (row : Row) : Option DecodeReason :=
  match row.head? with
  | none => some .outOfRange
  | some .null => some (.nullId index)
  | some value => if value.integer?.isSome then none else some (.notInteger value)

inductive Reads (index : Nat) (row : Row) : Prop where
  | number (id : Int64) (brings : row.number? = some id) (sound : row.fault? index = none)
      (filled : row.head? ≠ some .null) (read : row.integer? 0 = .ok (some id))
  | null (brings : row.number? = none) (fault : row.fault? index = some (.nullId index))
      (empty : row.head? = some .null) (read : row.integer? 0 = .ok none)
  | wrong (reason : DecodeReason) (brings : row.number? = none)
      (fault : row.fault? index = some reason) (filled : row.head? ≠ some .null)
      (read : row.integer? 0 = .error (.decode 0 reason))

theorem reads (index : Nat) (row : Row) : row.Reads index := by
  cases row with
  | nil => exact .wrong .outOfRange rfl rfl (by simp) rfl
  | cons value more =>
    by_cases empty : value = .null
    · subst empty
      exact .null rfl rfl rfl rfl
    · have filled : (value :: more).head? ≠ some .null := by simpa using empty
      cases decoded : value.integer? with
      | some id =>
        refine .number id ?_ ?_ filled ?_ <;>
          cases value <;> simp_all [number?, fault?, integer?]
      | none =>
        refine .wrong (.notInteger value) ?_ ?_ filled ?_ <;>
          cases value <;> simp_all [number?, fault?, integer?]

theorem faulty {row : Row} (missing : row.number? = none) (index : Nat) :
    ∃ reason, row.fault? index = some reason := by
  cases row.reads index with
  | number id brings => cases missing.symm.trans brings
  | null _ fault => exact ⟨_, fault⟩
  | wrong reason _ fault => exact ⟨reason, fault⟩

theorem faultless {row : Row} {index : Nat} {reason : DecodeReason}
    (fault : row.fault? index = some reason) : row.number? = none := by
  cases row.reads index with
  | number id _ sound => cases fault.symm.trans sound
  | null brings => exact brings
  | wrong _ brings => exact brings

theorem integerAlike {row other : Row} (alike : row.head? = other.head?) :
    row.integer? 0 = other.integer? 0 := by
  have first : row[0]? = other[0]? := by simpa [List.head?_eq_getElem?] using alike
  simp only [integer?, first]

end Row

namespace Session

theorem leadingAlike {rows more : List Row} (alike : rows.map List.head? = more.map List.head?) :
    leading rows = leading more := by
  cases rows with
  | nil =>
    cases more with
    | nil => rfl
    | cons row rest => cases alike
  | cons row rest =>
    cases more with
    | nil => cases alike
    | cons other later =>
      have first : row.head? = other.head? := (List.cons.inj alike).1
      exact congrArg (Except.map (·.getD 0)) (Row.integerAlike first)

theorem idsAlike {rows more : List Row} (alike : rows.map List.head? = more.map List.head?)
    (before : Nat) : ids before rows = ids before more := by
  induction rows generalizing more before with
  | nil =>
    cases more with
    | nil => rfl
    | cons row rest => cases alike
  | cons row rest ih =>
    cases more with
    | nil => cases alike
    | cons other later =>
      obtain ⟨first, behind⟩ := List.cons.inj alike
      simp only [ids, Row.integerAlike first, ih behind]

theorem idsNumbers {rows : List Row} {before : Nat} {found : List Int64}
    (numbers : rows.map Row.number? = found.map some) : ids before rows = .ok found := by
  induction rows generalizing before found with
  | nil =>
    have none : found = [] := List.map_eq_nil_iff.mp numbers.symm
    rw [none, ids]
  | cons row rest ih =>
    cases found with
    | nil => cases numbers
    | cons id later =>
      obtain ⟨first, behind⟩ := List.cons.inj numbers
      cases row.reads before with
      | number own brings sound filled read =>
        cases Option.some.inj (brings.symm.trans first)
        simp only [ids, read, ih behind]
        rfl
      | null brings => cases brings.symm.trans first
      | wrong reason brings => cases brings.symm.trans first

theorem idsFault {passed : List Row} {row : Row} {rest : List Row} {before : Nat}
    {reason : DecodeReason} (numbered : ∀ earlier ∈ passed, earlier.number? ≠ none)
    (fault : row.fault? (before + passed.length) = some reason) :
    ids before (passed ++ row :: rest) = .error (.decode 0 reason) := by
  induction passed generalizing before with
  | nil =>
    cases row.reads before with
    | number id brings sound => cases sound.symm.trans fault
    | null brings own empty read =>
      cases Option.some.inj (own.symm.trans fault)
      simp only [List.nil_append, ids, read]
    | wrong other brings own filled read =>
      cases Option.some.inj (own.symm.trans fault)
      simp only [List.nil_append, ids, read]
  | cons first later ih =>
    obtain ⟨here, behind⟩ := List.forall_mem_cons.mp numbered
    have next : row.fault? (before + 1 + later.length) = some reason := by
      rw [← fault, List.length_cons]
      exact congrArg row.fault? (by omega)
    cases first.reads before with
    | number id brings sound filled read =>
      simp only [List.cons_append, ids, read, ih behind next]
      rfl
    | null brings => exact absurd brings here
    | wrong other brings => exact absurd brings here

end Session

namespace Reply

def Numbered (rows : List Row) (id : Int64) : Prop :=
  ∃ row, rows.head? = some row ∧ row.number? = some id

def Unnumbered (rows : List Row) : Prop :=
  rows = [] ∨ (∃ row, rows.head? = some row ∧ row.head? = some .null) ∨ Numbered rows 0

def Undecoded (rows : List Row) (reason : DecodeReason) : Prop :=
  ∃ row, rows.head? = some row ∧ row.head? ≠ some .null ∧ row.fault? 0 = some reason

def FirstFault (rows : List Row) (reason : DecodeReason) : Prop :=
  ∃ passed row rest, rows = passed ++ row :: rest ∧
    (∀ earlier ∈ passed, earlier.number? ≠ none) ∧ row.fault? passed.length = some reason

theorem numbersOrFault (rows : List Row) :
    (∃ found : List Int64, rows.map Row.number? = found.map some) ∨
      ∃ reason, FirstFault rows reason := by
  induction rows with
  | nil => exact .inl ⟨[], rfl⟩
  | cons row rest ih =>
    have here : row.number? = none → ∃ reason, FirstFault (row :: rest) reason := by
      intro missing
      obtain ⟨reason, fault⟩ := Row.faulty missing 0
      exact ⟨reason, [], row, rest, rfl, by simp, fault⟩
    cases brings : row.number? with
    | none => exact .inr (here brings)
    | some id =>
      rcases ih with ⟨found, numbers⟩ | ⟨_, passed, other, later, split, numbered, fault⟩
      · exact .inl ⟨id :: found, by rw [List.map_cons, brings, numbers, List.map_cons]⟩
      · -- the fault names the row by its index, so it is another one behind one row more
        obtain ⟨reason, fault⟩ := Row.faulty (Row.faultless fault) (passed.length + 1)
        refine .inr ⟨reason, row :: passed, other, later, by rw [split]; rfl, ?_, fault⟩
        exact List.forall_mem_cons.mpr ⟨by simp [brings], numbered⟩

theorem sorted (rows : List Row) :
    (∃ id? : Option Int64, ∃ id, id? = some id ∧ id ≠ 0 ∧ Numbered rows id) ∨
      Unnumbered rows ∨ ∃ reason, Undecoded rows reason := by
  cases rows with
  | nil => exact .inr (.inl (.inl rfl))
  | cons row rest =>
    cases row.reads 0 with
    | number id brings =>
      have numbered : Numbered (row :: rest) id := ⟨row, rfl, brings⟩
      by_cases zero : id = 0
      · exact .inr (.inl (.inr (.inr (zero ▸ numbered))))
      · exact .inl ⟨some id, id, rfl, zero, numbered⟩
    | null _ _ empty => exact .inr (.inl (.inr (.inl ⟨row, rfl, empty⟩)))
    | wrong reason _ fault filled => exact .inr (.inr ⟨reason, row, rfl, filled, fault⟩)

theorem leadingNumbered {rows : List Row} {id : Int64} (numbered : Numbered rows id) :
    Session.leading rows = .ok id := by
  obtain ⟨row, first, brings⟩ := numbered
  cases row.reads 0 with
  | number own same _ _ read =>
    cases Option.some.inj (same.symm.trans brings)
    simp only [Session.leading, first, read]
    rfl
  | null missing => cases missing.symm.trans brings
  | wrong _ missing => cases missing.symm.trans brings

theorem leadingUnnumbered {rows : List Row} (unnumbered : Unnumbered rows) :
    Session.leading rows = .ok 0 := by
  rcases unnumbered with rfl | ⟨row, first, empty⟩ | zero
  · rfl
  · cases row.reads 0 with
    | number _ _ _ filled => exact absurd empty filled
    | null _ _ _ read =>
      simp only [Session.leading, first, read]
      rfl
    | wrong _ _ _ filled => exact absurd empty filled
  · exact leadingNumbered zero

theorem leadingUndecoded {rows : List Row} {reason : DecodeReason}
    (undecoded : Undecoded rows reason) :
    Session.leading rows = .error (.decode 0 reason) := by
  obtain ⟨row, first, filled, fault⟩ := undecoded
  cases row.reads 0 with
  | number _ _ sound => cases sound.symm.trans fault
  | null _ _ empty => exact absurd empty filled
  | wrong own _ same _ read =>
    cases Option.some.inj (same.symm.trans fault)
    simp only [Session.leading, first, read]
    rfl

end Reply

namespace Session

variable {σ α : Type}

def Answers (session : Session σ) (pieces : List Piece) (rows : List Row) : Prop :=
  (session.connection.fetch (session.write pieces).1 session.state).1 = .ok rows

/-- Every reply is of one of three sorts, and the outcome says of which: it has the numbers, or
they are missing, which is told, or there is a fault in the first column. -/
structure Sorts (session : Session σ) (statement : Statement) (missing : Event)
    (numbers : α → Prop) (lacking : Prop) (fault : DecodeReason → Prop) (outcome : Outcome σ α) :
    Prop where
  numbered : ∀ result, outcome.1 = .ok result ↔ numbers result
  unnumbered : outcome.1 = .error (.error (.violation .unique "" none)) ↔ lacking
  undecoded : ∀ reason, outcome.1 = .error (.error (.decode 0 reason)) ↔ fault reason
  sorted : (∃ result, numbers result) ∨ lacking ∨ ∃ reason, fault reason
  warned : lacking → outcome.2.journal =
    session.journal ++ sending .fetch statement ++ [.told missing]
  silent : ¬ lacking → outcome.2.journal = session.journal ++ sending .fetch statement

theorem sortsOf {session later : Session σ} {statement : Statement} {missing : Event}
    {numbers : α → Prop} {lacking : Prop} {fault : DecodeReason → Prop} {outcome : Outcome σ α}
    (answered : later.journal = session.journal ++ sending .fetch statement)
    (sorted : (∃ result, numbers result) ∨ lacking ∨ ∃ reason, fault reason)
    (numbered : ∀ result, numbers result → outcome = (.ok result, later))
    (unnumbered : lacking → outcome = (.error lackingId, later.tell missing))
    (undecoded : ∀ reason, fault reason → outcome = (.error (.error (.decode 0 reason)), later)) :
    session.Sorts statement missing numbers lacking fault outcome := by
  have kinds : (∃ result, numbers result ∧ outcome = (.ok result, later)) ∨
      (lacking ∧ outcome = (.error lackingId, later.tell missing)) ∨
      ∃ reason, fault reason ∧ outcome = (.error (.error (.decode 0 reason)), later) :=
    sorted.imp (fun ⟨result, holds⟩ => ⟨result, holds, numbered result holds⟩)
      (Or.imp (fun holds => ⟨holds, unnumbered holds⟩)
        fun ⟨reason, holds⟩ => ⟨reason, holds, undecoded reason holds⟩)
  refine ⟨fun result => ⟨fun same => ?_, fun holds => by rw [numbered result holds]⟩,
    ⟨fun same => ?_, fun holds => by rw [unnumbered holds]; rfl⟩,
    fun reason => ⟨fun same => ?_, fun holds => by rw [undecoded reason holds]⟩, sorted,
    fun holds => ?_, fun absent => ?_⟩
  · rcases kinds with ⟨_, holds, rfl⟩ | ⟨_, rfl⟩ | ⟨_, _, rfl⟩ <;> cases same
    exact holds
  · rcases kinds with ⟨_, _, rfl⟩ | ⟨holds, rfl⟩ | ⟨_, _, rfl⟩ <;> cases same
    exact holds
  · rcases kinds with ⟨_, _, rfl⟩ | ⟨_, rfl⟩ | ⟨_, holds, rfl⟩ <;> cases same
    exact holds
  · rw [unnumbered holds, ← answered]
    rfl
  · rcases kinds with ⟨_, _, rfl⟩ | ⟨holds, _⟩ | ⟨_, _, rfl⟩
    · exact answered
    · exact absurd holds absent
    · exact answered

theorem fetchAnswered {session : Session σ} {pieces : List Piece} {rows : List Row}
    (answers : session.Answers pieces rows) :
    ∃ later, later.journal = session.journal ++ sending .fetch (session.write pieces).1 ∧
      (session.write pieces).2.fetch (session.write pieces).1 = (.ok rows, later) := by
  let sent := (session.write pieces).2.announce .fetch (session.write pieces).1
  let state := (session.connection.fetch (session.write pieces).1 session.state).2
  exact ⟨{ sent with state }, rfl, congrArg (Session.report { sent with state }) answers⟩

theorem insertAnswered {session : Session σ} {insert : Insert} {rows : List Row}
    (asked : insert.primary ≠ "") (answers : session.Answers insert.pieces rows) :
    ∃ later,
      later.journal = session.journal ++ sending .fetch (session.write insert.pieces).1 ∧
      session.insert insert =
        match leading rows with
        | .error error => (.error (.error error), later)
        | .ok id =>
            if id = 0 then
              (.error lackingId, later.tell (.missingId insert.table insert.primary))
            else (.ok (some id), later) := by
  obtain ⟨later, journal, answered⟩ := fetchAnswered answers
  have named : insert.primary.isEmpty = false := by simpa using asked
  refine ⟨later, journal, ?_⟩
  simp only [Session.insert, named, answered]
  rfl

theorem insertAllAnswered {session : Session σ} {insert : BulkInsert} {rows : List Row}
    (asked : insert.primary ≠ "") (filled : insert.rows ≠ [])
    (answers : session.Answers insert.pieces rows) :
    ∃ later,
      later.journal = session.journal ++ sending .fetch (session.write insert.pieces).1 ∧
      session.insertAll insert =
        match ids 0 rows with
        | .error error => (.error (.error error), later)
        | .ok [] => (.error lackingId, later.tell (.missingIds insert.table insert.primary))
        | .ok ids => (.ok ids, later) := by
  obtain ⟨later, journal, answered⟩ := fetchAnswered answers
  have named : insert.primary.isEmpty = false := by simpa using asked
  have some : insert.rows.isEmpty = false := by simpa using filled
  refine ⟨later, journal, ?_⟩
  simp only [Session.insertAll, named, some, answered]
  rfl

def Unread (session : Session σ) (pieces : List Piece) (rows : List Row)
    (call : Session σ → Outcome σ α) : Prop :=
  ∀ (connection : Connection σ) (more : List Row), rows.map List.head? = more.map List.head? →
    let other := { session with connection }
    other.Answers pieces more →
    (call other).1 = (call session).1 ∧ (call other).2.journal = (call session).2.journal

theorem insertUnread {session : Session σ} {insert : Insert} {rows : List Row}
    (asked : insert.primary ≠ "") (answers : session.Answers insert.pieces rows) :
    session.Unread insert.pieces rows (·.insert insert) := by
  intro connection more alike other answersAgain
  obtain ⟨later, journal, here⟩ := insertAnswered asked answers
  obtain ⟨again, sameJournal, there⟩ := insertAnswered asked answersAgain
  have told : again.journal = later.journal := sameJournal.trans journal.symm
  rw [leadingAlike alike] at here
  simp only [here, there]
  split
  · exact ⟨rfl, told⟩
  · split
    · exact ⟨rfl, congrArg (· ++ _) told⟩
    · exact ⟨rfl, told⟩

theorem insertAllUnread {session : Session σ} {insert : BulkInsert} {rows : List Row}
    (asked : insert.primary ≠ "") (filled : insert.rows ≠ [])
    (answers : session.Answers insert.pieces rows) :
    session.Unread insert.pieces rows (·.insertAll insert) := by
  intro connection more alike other answersAgain
  obtain ⟨later, journal, here⟩ := insertAllAnswered asked filled answers
  obtain ⟨again, sameJournal, there⟩ := insertAllAnswered asked filled answersAgain
  have told : again.journal = later.journal := sameJournal.trans journal.symm
  rw [idsAlike alike] at here
  simp only [here, there]
  split
  · exact ⟨rfl, told⟩
  · exact ⟨rfl, congrArg (· ++ _) told⟩
  · exact ⟨rfl, told⟩

theorem insertSorts {session : Session σ} {insert : Insert} {rows : List Row}
    (asked : insert.primary ≠ "") (answers : session.Answers insert.pieces rows) :
    session.Sorts (session.write insert.pieces).1 (.missingId insert.table insert.primary)
      (fun id? => ∃ id, id? = some id ∧ id ≠ 0 ∧ Reply.Numbered rows id)
      (Reply.Unnumbered rows) (Reply.Undecoded rows) (session.insert insert) := by
  obtain ⟨later, journal, answered⟩ := insertAnswered asked answers
  rw [answered]
  refine sortsOf journal (Reply.sorted rows) ?_ ?_ ?_
  · rintro _ ⟨id, rfl, some, numbered⟩
    simp only [Reply.leadingNumbered numbered, if_neg some]
  · intro unnumbered
    simp only [Reply.leadingUnnumbered unnumbered, if_pos]
  · intro reason undecoded
    simp only [Reply.leadingUndecoded undecoded]

theorem insertAllSorts {session : Session σ} {insert : BulkInsert} {rows : List Row}
    (asked : insert.primary ≠ "") (filled : insert.rows ≠ [])
    (answers : session.Answers insert.pieces rows) :
    session.Sorts (session.write insert.pieces).1 (.missingIds insert.table insert.primary)
      (fun ids => rows ≠ [] ∧ rows.map Row.number? = ids.map some)
      (rows = []) (Reply.FirstFault rows) (session.insertAll insert) := by
  obtain ⟨later, journal, answered⟩ := insertAllAnswered asked filled answers
  rw [answered]
  refine sortsOf journal ?_ ?_ ?_ ?_
  · by_cases empty : rows = []
    · exact .inr (.inl empty)
    · exact (Reply.numbersOrFault rows).imp (fun ⟨ids, numbers⟩ => ⟨ids, empty, numbers⟩) .inr
  · rintro ids ⟨some, numbers⟩
    have several : ids ≠ [] := by
      rintro rfl
      exact some (List.map_eq_nil_iff.mp numbers)
    rw [idsNumbers numbers]
    cases ids with
    | nil => exact absurd rfl several
    | cons id more => rfl
  · rintro rfl
    rfl
  · rintro reason ⟨passed, row, rest, rfl, numbered, fault⟩
    rw [← Nat.zero_add passed.length] at fault
    rw [idsFault numbered fault]

end Session

theorem insertRepliesRead {σ : Type} (session : Session σ) (rows : List Row) :
    (∀ insert : Insert, insert.primary ≠ "" → session.Answers insert.pieces rows →
      session.Sorts (session.write insert.pieces).1 (.missingId insert.table insert.primary)
        (fun id? => ∃ id, id? = some id ∧ id ≠ 0 ∧ Reply.Numbered rows id)
        (Reply.Unnumbered rows) (Reply.Undecoded rows) (session.insert insert) ∧
      session.Unread insert.pieces rows (·.insert insert)) ∧
    (∀ insert : BulkInsert, insert.primary ≠ "" → insert.rows ≠ [] →
      session.Answers insert.pieces rows →
      session.Sorts (session.write insert.pieces).1 (.missingIds insert.table insert.primary)
        (fun ids => rows ≠ [] ∧ rows.map Row.number? = ids.map some)
        (rows = []) (Reply.FirstFault rows) (session.insertAll insert) ∧
      session.Unread insert.pieces rows (·.insertAll insert)) :=
  ⟨fun _ asked answers =>
      ⟨Session.insertSorts asked answers, Session.insertUnread asked answers⟩,
    fun _ asked filled answers => ⟨Session.insertAllSorts asked filled answers,
      Session.insertAllUnread asked filled answers⟩⟩

theorem seatRepliesRead :
    let one : Insert := ⟨"seat", "id", .ofList [("row", .set (.int 2))]⟩
    let several : BulkInsert :=
      ⟨"seat", "id", ["row"], [one.changes, .empty, .ofList [("row", .set .null)]]⟩
    let session := fun rows => Session.start .standard Script.connection ⟨[.rows rows], []⟩
    let given : List Row := [[.string " 12 ", .null], [.null]]
    let lost : List Row := [[.int 0, .int 12]]
    let partly : List Row := [[.int 7], [.null, .int 8], []]
    one.primary ≠ "" ∧ several.primary ≠ "" ∧ several.rows ≠ [] ∧
    (session given).Answers one.pieces given ∧ (session lost).Answers one.pieces lost ∧
    (session partly).Answers several.pieces partly ∧
    ((session given).insert one).1 = .ok (some 12) ∧
    ((session lost).insert one).1 = .error (.error (.violation .unique "" none)) ∧
    ((session lost).insert one).2.journal =
      Session.sending .fetch ((session lost).write one.pieces).1 ++
        [.told (.missingId "seat" "id")] ∧
    ((session partly).insertAll several).1 = .error (.error (.decode 0 (.nullId 1))) := by
  intro one several session given lost partly
  have asked : one.primary ≠ "" := by decide
  have askedAll : several.primary ≠ "" := by decide
  have filled : several.rows ≠ [] := by decide
  have twelve : Reply.Numbered given 12 := ⟨[.string " 12 ", .null], rfl, rfl⟩
  have zero : Reply.Unnumbered lost := .inr (.inr ⟨[.int 0, .int 12], rfl, rfl⟩)
  have second : Reply.FirstFault partly (.nullId 1) :=
    ⟨[[.int 7]], [.null, .int 8], [[]], rfl, by simp [Row.number?, Value.integer?], rfl⟩
  have first := ((insertRepliesRead (session given) given).1 one asked rfl).1
  have missing := ((insertRepliesRead (session lost) lost).1 one asked rfl).1
  have bulk := ((insertRepliesRead (session partly) partly).2 several askedAll filled rfl).1
  exact ⟨asked, askedAll, filled, rfl, rfl, rfl,
    (first.numbered (some 12)).mpr ⟨12, rfl, by decide, twelve⟩, missing.unnumbered.mpr zero,
    missing.warned zero, (bulk.undecoded (.nullId 1)).mpr second⟩

end Sqlwright
