import Mathlib
import Sqlwright.Proofs.Adapter.Journal
import Sqlwright.Proofs.Mutation.Columns
import Sqlwright.Proofs.Query.Restriction

/-! The assignments of an update. There is one for each column that is changed, in ascending
order, except for the primary column, which is neither written nor read. Their values are bound
in that order and those of the filter behind them. An update without assignments is refused
before anything is sent. -/
namespace Sqlwright
open Identifier (Rules)

namespace Changes

theorem memAssigned {changes : Changes} {primary column : String} {change : Change} :
    (column, change) ∈ changes.assigned primary ↔
      column ≠ primary ∧ changes.find? column = some change := by
  rw [assigned, List.mem_filter, Keyed.findIff, bne_iff_ne, and_comm]

theorem assignedAscending (changes : Changes) (primary : String) :
    Entries.Ascending (changes.assigned primary) :=
  changes.ascending.filter _

theorem assignedAlike {first second : Changes} {primary : String}
    (alike : ∀ column, column ≠ primary → first.find? column = second.find? column) :
    first.assigned primary = second.assigned primary := by
  refine Entries.ascendingExt (first.assignedAscending primary)
    (second.assignedAscending primary) ?_
  rintro ⟨column, change⟩
  rw [memAssigned, memAssigned]
  exact and_congr_right fun other => by rw [alike column other]

end Changes

theorem Piece.boundSeparated (config : Config) (word : String) (parts : List (List Piece)) :
    allBound config (separated word parts) = allBound config parts.flatten := by
  have flattened : allSites parts.flatten = parts.flatMap allSites := by
    rw [allSites, List.flatten_eq_flatMap, List.flatMap_assoc]
    rfl
  rw [boundOfSites, boundOfSites, sitesSeparated, flattened]

namespace Update

def assignments (update : Update) : List (String × Change) :=
  update.changes.assigned update.primary

def valuesBefore (update : Update) (index : Nat) : List Value :=
  (update.assignments.take index).flatMap fun entry => entry.2.values

def assignmentText (config : Config) (position : Nat) : String × Change → String
  | (column, .set _) =>
      (Rules.ofConfig config).escape column ++ "=" ++ config.placeholder ++ toString position
  | (column, .increase _) =>
      (Rules.ofConfig config).escape column ++ "=" ++ (Rules.ofConfig config).escape column ++
        "+" ++ config.placeholder ++ toString position
  | (assignment, .fragment _) => assignment

def assignmentTexts (config : Config) (update : Update) : List String :=
  update.assignments.mapIdx fun index entry =>
    assignmentText config ((update.valuesBefore index).length + 1) entry

def boundValues (update : Update) : List Value :=
  update.assignments.flatMap fun entry => entry.2.values

def text (config : Config) (update : Update) : String :=
  "UPDATE " ++ (Rules.ofConfig config).escape update.table ++ " SET " ++
    ",".intercalate (update.assignmentTexts config) ++
    update.filter.clauseText config update.boundValues.length " WHERE " ++ ";"

theorem assignmentOfTokens {config : Config} (ordinal : config.ordinal = true)
    (binds : config.inline = false) (count : Nat) (entry : String × Change) :
    Token.joined config (Piece.allTokens config count (assignment entry)) =
      assignmentText config (count + 1) entry := by
  obtain ⟨column, change⟩ := entry
  cases change <;>
    simp [assignment, assignmentText, Piece.allTokens, Piece.tokens, Piece.bound, Token.joined,
      Token.sql, Statement.placeholder, binds, ordinal, String.append_assoc]

theorem boundAssignments {config : Config} (binds : config.inline = false)
    (entries : List (String × Change)) :
    Piece.allBound config (entries.map assignment).flatten =
      entries.flatMap fun entry => entry.2.values := by
  induction entries with
  | nil => rfl
  | cons entry rest ih =>
    have first : Piece.allBound config (assignment entry) = entry.2.values := by
      rw [Piece.allBoundSites binds, sitesAssignment, Change.sitesValues]
    rw [List.map_cons, List.flatten_cons, Piece.allBoundAppend, first, ih, List.flatMap_cons]

theorem textsOfTokens {config : Config} (ordinal : config.ordinal = true)
    (binds : config.inline = false) (update : Update) :
    Piece.partTexts config 0 (update.assignments.map assignment) =
      update.assignmentTexts config := by
  refine List.ext_getElem? fun index => ?_
  rw [Piece.partTextsAt, assignmentTexts, List.getElem?_map, List.getElem?_mapIdx,
    Option.map_map, ← List.map_take, boundAssignments binds, Nat.zero_add]
  refine congrArg (Option.map · _) (funext fun entry => ?_)
  exact assignmentOfTokens ordinal binds _ entry

theorem boundList {config : Config} (binds : config.inline = false) (update : Update) :
    Piece.allBound config
      (Piece.separated "," ((update.changes.assigned update.primary).map assignment)) =
        update.boundValues := by
  rw [Piece.boundSeparated, boundAssignments binds]
  rfl

theorem boundOfPieces {config : Config} (binds : config.inline = false) (update : Update) :
    Piece.allBound config update.pieces =
      update.boundValues ++ update.filter.arguments config := by
  have opening : Piece.allBound config
      [.text "UPDATE ", .field update.table, .text " SET "] = [] := rfl
  rw [pieces, Piece.allBoundAppend, Piece.allBoundAppend, Piece.allBoundAppend, opening,
    boundList binds, Filter.boundClause]
  exact List.append_nil _

theorem textOfTokens {config : Config} (ordinal : config.ordinal = true)
    (binds : config.inline = false) (update : Update) :
    Token.joined config (Piece.allTokens config 0 update.pieces) = update.text config := by
  have opening : Token.joined config
      (Piece.allTokens config 0 [.text "UPDATE ", .field update.table, .text " SET "]) =
        "UPDATE " ++ (Rules.ofConfig config).escape update.table ++ " SET " := by
    rw [Piece.textOfTokens, Piece.fieldOfTokens, Piece.textAlone, String.append_assoc]
  have unfilled : Piece.allBound config
      [.text "UPDATE ", .field update.table, .text " SET "] = [] := rfl
  have list : Token.joined config (Piece.allTokens config 0
      (Piece.separated "," ((update.changes.assigned update.primary).map assignment))) =
        ",".intercalate (update.assignmentTexts config) := by
    rw [Piece.partsOfTokens, ← update.textsOfTokens ordinal binds]
    rfl
  rw [pieces, text]
  simp only [Piece.allTokensAppend, Piece.allBoundAppend, Token.joinedAppend, opening, unfilled,
    list, boundList binds, Filter.clauseOfTokens, Piece.textAlone, List.nil_append, List.length_nil,
    Nat.zero_add]

theorem valueInLine {update : Update} {index offset : Nat} {entry : String × Change}
    {value : Value} (listed : update.assignments[index]? = some entry)
    (own : entry.2.values[offset]? = some value) :
    update.boundValues[(update.valuesBefore index).length + offset]? = some value := by
  have values : update.boundValues = update.valuesBefore index ++
      (entry.2.values ++ (update.assignments.drop (index + 1)).flatMap fun entry =>
        entry.2.values) := flatMapAt _ listed
  obtain ⟨short, _⟩ := List.getElem?_eq_some_iff.mp own
  rw [values, List.getElem?_append_right (Nat.le_add_right _ _), Nat.add_sub_cancel_left,
    List.getElem?_append_left short, own]

structure Assigns (config : Config) (update : Update) (statement : Statement) : Prop where
  ascending : (update.assignments.map (·.1)).Pairwise (· < ·)
  columns : ∀ column change, (column, change) ∈ update.assignments ↔
    column ≠ update.primary ∧ update.changes.find? column = some change
  text : statement.sql = update.text config
  count : (update.assignmentTexts config).length = update.assignments.length
  arguments : statement.arguments = update.boundValues ++ update.filter.arguments config
  aligned : ∀ index entry, update.assignments[index]? = some entry →
    (update.assignmentTexts config)[index]? =
      some (assignmentText config ((update.valuesBefore index).length + 1) entry) ∧
    ∀ offset value, entry.2.values[offset]? = some value →
      statement.arguments[(update.valuesBefore index).length + offset]? = some value

theorem assigns {config : Config} (ordinal : config.ordinal = true)
    (binds : config.inline = false) (update : Update) :
    update.Assigns config (Statement.empty.extended config update.pieces) := by
  rw [Statement.extendedEmpty, update.textOfTokens ordinal binds, boundOfPieces binds]
  refine ⟨?_, fun _ _ => Changes.memAssigned, rfl, List.length_mapIdx, rfl,
    fun index entry listed => ⟨?_, fun offset value own => ?_⟩⟩
  · exact List.pairwise_map.mpr (update.changes.assignedAscending update.primary)
  · rw [assignmentTexts, List.getElem?_mapIdx, listed, Option.map_some]
  · have found := valueInLine listed own
    obtain ⟨inside, _⟩ := List.getElem?_eq_some_iff.mp found
    rw [List.getElem?_append_left inside, found]

structure Guarded {σ : Type} (session : Session σ) (update : Update) : Prop where
  invalid : (∃ reason, (session.update update).1 = .error (.error (.validation reason))) ↔
    update.assignments = []
  refused : update.assignments = [] → session.update update =
    (.error (.error (.validation (.nothingToSet update.table))), session)
  sent : update.assignments ≠ [] → ∃ reports : List Event,
    (session.update update).2.journal = session.journal ++
      Session.sending .execute (session.dialect.update update).1 ++ reports.map .told

theorem guarded {σ : Type} (session : Session σ) (update : Update) :
    Guarded session update := by
  have refused : update.assignments = [] → session.update update =
      (.error (.error (.validation (.nothingToSet update.table))), session) := fun none => by
    have unassigned : ¬update.changes.hasAssignments update.primary = true := fun some =>
      Changes.hasAssignmentsIff.mp some none
    rw [Session.update, if_neg unassigned]
  have sent : update.assignments ≠ [] → session.update update =
      ((session.write update.pieces).2.execute (session.write update.pieces).1).map
        (·.rowsAffected) := fun some => by
    rw [Session.update, if_pos (Changes.hasAssignmentsIff.mpr some)]
  refine ⟨⟨fun ⟨reason, failed⟩ => ?_, fun none => ⟨_, by rw [refused none]⟩⟩, refused,
    fun some => ?_⟩
  · -- what fails in a statement that is sent has a source, and a refusal has none
    by_contra some
    rw [sent some, Outcome.mapFailed] at failed
    obtain ⟨source, caused⟩ := Session.executeSourced failed
    cases caused
  · rw [sent some]
    exact Session.executeJournal _ _

end Update

theorem updateAssigns {config : Config} (ordinal : config.ordinal = true)
    (binds : config.inline = false) (mapper : ColumnMapper) (history : List Command)
    (update : Update) :
    let dialect := (Dialect.new config mapper).after history
    update.Assigns config (dialect.update update).1 ∧
    (∀ changes : Changes, (∀ column, column ≠ update.primary →
        changes.find? column = update.changes.find? column) →
      dialect.update { update with changes } = dialect.update update) ∧
    ∀ (σ : Type) (session : Session σ), update.Guarded session := by
  intro dialect
  refine ⟨?_, fun changes alike => ?_, fun σ session => update.guarded session⟩
  · have written : (dialect.update update).1 = Statement.empty.extended config update.pieces := by
      rw [Dialect.update, Dialect.writeAfter]
    rw [written]
    exact update.assigns ordinal binds
  · simp only [Dialect.update, Update.pieces, Changes.assignedAlike alike]

def Update.seat : Update where
  table := "seat"
  primary := "id"
  changes := .ofList
    [("taken", .increase (.int 1)), ("row", .set (.int 2)), ("id", .set (.int 7)),
      ("seen=COALESCE(?,?)", .fragment [.null, .bool true])]
  filter := .among "hall" [.query { Query.ofTable "hall" with
    filter := .compare "open" .equal (.value (.bool false)) }] false

theorem seatUpdateAssigns :
    let dialect := (Dialect.new {} Column.nativeType).after [.escape "row"]
    let renumbered := { Update.seat with
      changes := Update.seat.changes.insert "id" (.increase (.int 1)) }
    let session := Session.start dialect Script.connection ⟨[], []⟩
    Update.seat.Assigns {} (dialect.update .seat).1 ∧
    dialect.update renumbered = dialect.update .seat ∧
    (dialect.update .seat).1 = ⟨"UPDATE [seat] SET [row]=@p1,seen=COALESCE(?,?)," ++
      "[taken]=[taken]+@p4 WHERE [hall] IN (SELECT * FROM [hall] WHERE [open]=@p5);",
      [.int 2, .null, .bool true, .int 1, .bool false]⟩ ∧
    ∃ reports : List Event, (session.update .seat).2.journal =
      Session.sending .execute (dialect.update .seat).1 ++ reports.map .told := by
  intro dialect renumbered session
  have ordinal : Config.ordinal {} = true := rfl
  have binds : Config.inline {} = false := rfl
  obtain ⟨assigns, unread, guarded⟩ :=
    updateAssigns ordinal binds Column.nativeType [.escape "row"] .seat
  have alike : ∀ column, column ≠ Update.seat.primary →
      renumbered.changes.find? column = Update.seat.changes.find? column :=
    fun column other => (Keyed.findInsert ..).trans (if_neg other)
  have written : (((Dialect.new {} Column.nativeType).after [.escape "row"]).update .seat).1 =
      ⟨"UPDATE [seat] SET [row]=@p1,seen=COALESCE(?,?)," ++
        "[taken]=[taken]+@p4 WHERE [hall] IN (SELECT * FROM [hall] WHERE [open]=@p5);",
        [.int 2, .null, .bool true, .int 1, .bool false]⟩ := by cbv
  exact ⟨assigns, unread _ alike, written, (guarded _ session).sent (by decide)⟩

end Sqlwright
