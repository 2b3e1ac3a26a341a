import Mathlib
import Sqlwright.Proofs.Dialect.History
import Sqlwright.Proofs.Mutation.Single
import Sqlwright.Proofs.Mutation.Sites
import Sqlwright.Proofs.Statement.Text

/-! The columns of an insert, their placeholders and their values. All three are taken from the
settings of the row, which stand in ascending order of the columns whatever the order in which
they came. The table is told of a number exactly if the primary column is among the columns. -/
namespace Sqlwright
open Identifier (Rules)

namespace Entries

variable {α : Type}

theorem lookupAppend (key : String) (first second : List (String × α)) :
    lookup key (first ++ second) = (lookup key first).or (lookup key second) := by
  induction first with
  | nil => rfl
  | cons entry rest ih =>
    by_cases here : key = entry.1 <;> simp [lookup, here, ih]

theorem lookupMem {key : String} {value : α} {entries : List (String × α)}
    (found : lookup key entries = some value) : (key, value) ∈ entries := by
  induction entries with
  | nil => simp [lookup] at found
  | cons entry rest ih =>
    by_cases here : key = entry.1
    · simp only [lookup, if_pos here, Option.some.injEq] at found
      simp [here, ← found]
    · rw [lookup, if_neg here] at found
      exact List.mem_cons_of_mem _ (ih found)

theorem lookupNone {key : String} {entries : List (String × α)}
    (absent : lookup key entries = none) (value : α) : (key, value) ∉ entries := by
  intro member
  obtain ⟨before, after, rfl⟩ := List.append_of_mem member
  simp [lookupAppend, lookup] at absent

theorem lookupOfList (key : String) (pairs : List (String × α)) :
    lookup key (ofList pairs) = lookup key pairs.reverse := by
  have after : ∀ entries : List (String × α),
      lookup key (pairs.foldl (fun entries (key, value) => insert key value entries) entries) =
        (lookup key pairs.reverse).or (lookup key entries) := by
    induction pairs with
    | nil => exact fun _ => rfl
    | cons pair rest ih =>
      intro entries
      rw [List.foldl_cons, ih, lookupInsert, List.reverse_cons, lookupAppend, Option.or_assoc]
      by_cases here : key = pair.1 <;> simp [lookup, here]
  exact (after []).trans (Option.or_none)

theorem ascendingExt {first second : List (String × α)} (left : Ascending first)
    (right : Ascending second) (same : ∀ entry, entry ∈ first ↔ entry ∈ second) :
    first = second := by
  have distinct : ∀ {entries : List (String × α)}, Ascending entries → entries.Nodup := by
    intro entries ascending
    refine List.Pairwise.imp ?_ ascending
    rintro entry _ less rfl
    exact String.lt_irrefl _ less
  have members : first.Perm second :=
    (List.perm_ext_iff_of_nodup (distinct left) (distinct right)).mpr same
  exact members.eq_of_pairwise (fun _ _ _ _ less more => absurd (String.lt_trans less more)
    (String.lt_irrefl _)) left right

end Entries

namespace Keyed

variable {α : Type}

theorem ext {first second : Keyed α} (same : ∀ key, first.find? key = second.find? key) :
    first = second := by
  have entries : first.entries = second.entries := by
    refine Entries.ascendingExt first.ascending second.ascending ?_
    rintro ⟨key, value⟩
    rw [← findIff, ← findIff, same]
  cases first
  cases second
  simpa using entries

theorem ofListPerm {map : Keyed α} {pairs : List (String × α)} (same : pairs.Perm map.entries) :
    ofList pairs = map := by
  refine ext fun key => ?_
  have looked : (ofList pairs).find? key = Entries.lookup key pairs.reverse :=
    Entries.lookupOfList key pairs
  have order : ∀ entry, entry ∈ pairs.reverse ↔ entry ∈ map.entries :=
    fun entry => List.mem_reverse.trans same.mem_iff
  rw [looked]
  cases found : Entries.lookup key pairs.reverse with
  | some value => exact (findIff.mpr ((order _).mp (Entries.lookupMem found))).symm
  | none =>
    cases held : map.find? key with
    | none => rfl
    | some value =>
      exact absurd ((order _).mpr (findIff.mp held)) (Entries.lookupNone found value)

end Keyed

namespace Changes

theorem setColumnsLength (changes : Changes) :
    changes.setColumns.length = changes.settings.length := by
  rw [← settingsColumns, List.length_map]

theorem ascendingColumns (changes : Changes) : changes.setColumns.Pairwise (· < ·) := by
  rw [← settingsColumns, settings, List.pairwise_map]
  refine changes.ascending.filterMap _ ?_
  intro first second less one left other right
  obtain ⟨_, _, rfl⟩ := Option.map_eq_some_iff.mp left
  obtain ⟨_, _, rfl⟩ := Option.map_eq_some_iff.mp right
  exact less

theorem valueIff {changes : Changes} {column : String} {value : Value} :
    changes.value? column = some value ↔ changes.find? column = some (.set value) := by
  rw [value?, Option.bind_eq_some_iff]
  constructor
  · rintro ⟨change, found, set⟩
    cases change with
    | set item =>
      cases Option.some.inj set
      exact found
    | increase item => cases set
    | fragment items => cases set
  · exact fun found => ⟨_, found, rfl⟩

end Changes

namespace Piece

def switchText (config : Config) (table : String) (on : Bool) : String :=
  "SET IDENTITY_INSERT " ++ (Rules.ofConfig config).escape table ++ if on then " ON;" else " OFF;"

def columnsText (config : Config) (names : List String) : String :=
  if names.isEmpty then ""
  else " (" ++ ",".intercalate (names.map (Rules.ofConfig config).escape) ++ ")"

def outputText (config : Config) (primary : String) : String :=
  if primary.isEmpty then ""
  else " OUTPUT " ++ (Rules.ofConfig config).escape ("INSERTED." ++ primary)

def slots (config : Config) (size : Nat) : List String :=
  (List.range size).map fun index => config.placeholder ++ toString (index + 1)

def rowText (config : Config) (size : Nat) : String :=
  if size = 0 then " DEFAULT VALUES"
  else " VALUES (" ++ ",".intercalate (slots config size) ++ ")"

theorem switchOfTokens (config : Config) (count : Nat) (table : String) (on : Bool) :
    Token.joined config (allTokens config count (identityInsert table on)) =
      switchText config table on := by
  unfold identityInsert switchText
  rw [String.append_assoc]
  rw [textOfTokens, fieldOfTokens, textAlone]

theorem numberingOfTokens (config : Config) (brought : Bool) (table : String)
    (statement : List Piece) :
    Token.joined config (allTokens config 0 (numbering brought table statement)) =
      (if brought then switchText config table true ++ " " else "") ++
        Token.joined config (allTokens config 0 statement) ++
        if brought then " " ++ switchText config table false else "" := by
  have opening : allBound config (identityInsert table true ++ [.text " "]) = [] := rfl
  cases brought with
  | false => simp [numbering]
  | true =>
    rw [numbering, if_pos rfl, if_pos rfl, if_pos rfl]
    simp only [allTokensAppend, Token.joinedAppend, switchOfTokens, textAlone, opening,
      String.append_assoc, List.length_nil, Nat.add_zero]

def switched (config : Config) (brought : Bool) (table statement : String) : String :=
  (if brought then switchText config table true ++ " " else "") ++ statement ++
    if brought then " " ++ switchText config table false else ""

theorem opensFurther {lead : List Char} {first : String} (rest : String)
    (opens : lead <+: first.toList) : lead <+: (first ++ rest).toList := by
  rw [String.toList_append]
  exact opens.trans (List.prefix_append _ _)

theorem closesFurther {last : List Char} (first : String) {rest : String}
    (closes : last <:+ rest.toList) : last <:+ (first ++ rest).toList := by
  rw [String.toList_append]
  exact closes.trans (List.suffix_append _ _)

theorem switchedOpens (config : Config) (brought : Bool) (table : String) {statement : String}
    (plain : ['I'] <+: statement.toList) :
    (switchText config table true).toList <+: (switched config brought table statement).toList ↔
      brought = true := by
  cases brought with
  | true => exact iff_of_true (opensFurther _ (opensFurther _ (opensFurther _ List.prefix_rfl))) rfl
  | false =>
    have switch : ['S'] <+: (switchText config table true).toList :=
      opensFurther _ (opensFurther _ (by decide))
    have same : switched config false table statement = statement := by simp [switched]
    refine iff_of_false (fun opens => ?_) Bool.false_ne_true
    rw [same] at opens
    have leads := List.prefix_of_prefix_length_le (switch.trans opens) plain le_rfl
    have letter := leads.eq_of_length rfl
    simp at letter

theorem switchedCloses (config : Config) (brought : Bool) (table : String) {statement : String}
    {last : Char} (other : last ≠ 'F') (ends : [last] <:+ statement.toList) :
    (switchText config table false).toList <:+
        (switched config brought table (statement ++ ";")).toList ↔ brought = true := by
  cases brought with
  | true => exact iff_of_true (closesFurther _ (closesFurther _ List.suffix_rfl)) rfl
  | false =>
    have switch : ['F', ';'] <:+ (switchText config table false).toList :=
      closesFurther _ (by decide)
    have same : switched config false table (statement ++ ";") = statement ++ ";" := by
      simp [switched]
    have plain : [last, ';'] <:+ (statement ++ ";").toList := by
      obtain ⟨before, join⟩ := ends
      exact ⟨before, by rw [String.toList_append, ← join, List.append_assoc]; rfl⟩
    refine iff_of_false (fun closes => ?_) Bool.false_ne_true
    rw [same] at closes
    have leaves := List.suffix_of_suffix_length_le (switch.trans closes) plain le_rfl
    have letters := leaves.eq_of_length rfl
    exact other (List.cons.inj letters).1.symm

theorem columnsOfTokens (config : Config) (count : Nat) (names : List String) :
    Token.joined config (allTokens config count (columns names)) = columnsText config names := by
  have opening : " (" = " " ++ "(" := rfl
  unfold columns columnsText
  split
  · rfl
  · rw [textOfTokens, enclosedOfTokens, fieldsOfTokens, opening]
    simp only [String.append_assoc]

theorem outputOfTokens (config : Config) (count : Nat) (primary : String) :
    Token.joined config (allTokens config count (output primary)) = outputText config primary := by
  unfold output outputText
  split
  · rfl
  · rw [textOfTokens, fieldAlone]

theorem rowOfTokens {config : Config} (ordinal : config.ordinal = true)
    (binds : config.inline = false) (items : List Value) :
    Token.joined config (allTokens config 0 (if items.isEmpty then [.text " DEFAULT VALUES"]
      else .text " VALUES " :: enclosed (values items))) = rowText config items.length := by
  have opening : " VALUES (" = " VALUES " ++ "(" := rfl
  have numbered : ∀ position, Statement.placeholder config position =
      config.placeholder ++ toString position := fun position => by
    rw [Statement.placeholder, if_pos ordinal]
  unfold rowText slots
  cases items with
  | nil => rfl
  | cons item rest =>
    rw [if_neg (by simp), if_neg (by simp), textOfTokens, enclosedOfTokens, valuesOfTokens binds,
      opening]
    simp only [numbered, Nat.zero_add, String.append_assoc]

theorem insertOfTokens (config : Config) (brought : Bool) (table primary : String)
    (names : List String) (rows : List Piece) :
    Token.joined config (allTokens config 0 (numbering brought table
      ([.text "INSERT INTO ", .field table] ++ columns names ++ output primary ++ rows ++
        [.text ";"]))) =
      switched config brought table
        ("INSERT INTO " ++ (Rules.ofConfig config).escape table ++ columnsText config names ++
          outputText config primary ++ Token.joined config (allTokens config 0 rows) ++ ";") := by
  have unnamed := boundWithoutSites config (sitesColumns names)
  have unreturned := boundWithoutSites config (sitesOutput primary)
  have unfilled : allBound config [.text "INSERT INTO ", .field table] = [] := rfl
  have opening : Token.joined config (allTokens config 0 [.text "INSERT INTO ", .field table]) =
      "INSERT INTO " ++ (Rules.ofConfig config).escape table := by
    rw [textOfTokens, fieldAlone]
  rw [numberingOfTokens, switched]
  simp only [allTokensAppend, allBoundAppend, Token.joinedAppend, unnamed, unreturned, unfilled,
    opening, textAlone, columnsOfTokens, outputOfTokens, List.append_nil, List.length_nil,
    Nat.add_zero]

end Piece

namespace Insert

def text (config : Config) (insert : Insert) : String :=
  let columns := insert.changes.setColumns
  (if insert.bringsNumber then Piece.switchText config insert.table true ++ " " else "") ++
    ("INSERT INTO " ++ (Rules.ofConfig config).escape insert.table ++
      Piece.columnsText config columns ++ Piece.outputText config insert.primary ++
      Piece.rowText config columns.length ++ ";") ++
    if insert.bringsNumber then " " ++ Piece.switchText config insert.table false else ""

theorem textOfTokens {config : Config} (ordinal : config.ordinal = true)
    (binds : config.inline = false) (insert : Insert) :
    Token.joined config (Piece.allTokens config 0 insert.pieces) = insert.text config := by
  have row := Piece.rowOfTokens ordinal binds (insert.changes.settings.map (·.2))
  rw [List.isEmpty_map, List.length_map, ← Changes.setColumnsLength] at row
  unfold pieces text
  rw [Piece.insertOfTokens, row, Changes.settingsColumns]
  rfl

theorem bringsIff (insert : Insert) : insert.bringsNumber = true ↔
    insert.primary ≠ "" ∧ insert.primary ∈ insert.changes.setColumns := by
  rw [Changes.memSetColumns, bringsNumber, Bool.and_eq_true,
    Bool.not_eq_true', String.isEmpty_eq_false_iff]

theorem opensIff (config : Config) (insert : Insert) :
    (Piece.switchText config insert.table true).toList <+: (insert.text config).toList ↔
      insert.bringsNumber = true := by
  refine Piece.switchedOpens config insert.bringsNumber insert.table ?_
  simp only [String.toList_append, List.append_assoc]
  exact List.IsPrefix.trans (by decide) (List.prefix_append _ _)

theorem closesIff (config : Config) (insert : Insert) :
    (Piece.switchText config insert.table false).toList <:+ (insert.text config).toList ↔
      insert.bringsNumber = true := by
  obtain ⟨last, other, row⟩ : ∃ last, last ≠ 'F' ∧
      [last] <:+ (Piece.rowText config insert.changes.setColumns.length).toList := by
    unfold Piece.rowText
    split
    · exact ⟨'S', by decide, by decide⟩
    · exact ⟨')', by decide, Piece.closesFurther _ (by decide)⟩
  exact Piece.switchedCloses config insert.bringsNumber insert.table other
    (Piece.closesFurther _ row)

theorem textUnset (config : Config) {insert : Insert} (unset : insert.changes.setColumns = []) :
    insert.text config = "INSERT INTO " ++ (Rules.ofConfig config).escape insert.table ++
      Piece.outputText config insert.primary ++ " DEFAULT VALUES" ++ ";" := by
  have unbrought : insert.bringsNumber = false := by
    rw [Bool.eq_false_iff, Ne, bringsIff, unset]
    simp
  simp [text, unbrought, unset, Piece.columnsText, Piece.rowText]

structure LinesUp (config : Config) (insert : Insert) (statement : Statement) : Prop where
  ascending : insert.changes.setColumns.Pairwise (· < ·)
  columns : ∀ column, column ∈ insert.changes.setColumns ↔
    ∃ value, insert.changes.find? column = some (.set value)
  orderless : ∀ pairs : List (String × Change), pairs.Perm insert.changes.entries →
    Keyed.ofList pairs = insert.changes
  text : statement.sql = insert.text config
  count : statement.arguments.length = insert.changes.setColumns.length
  aligned : ∀ index column, insert.changes.setColumns[index]? = some column →
    (Piece.slots config insert.changes.setColumns.length)[index]? =
      some (config.placeholder ++ toString (index + 1)) ∧
    ∃ value, statement.arguments[index]? = some value ∧
      insert.changes.find? column = some (.set value)
  unset : insert.changes.setColumns = [] → statement.arguments = [] ∧
    statement.sql = "INSERT INTO " ++ (Rules.ofConfig config).escape insert.table ++
      Piece.outputText config insert.primary ++ " DEFAULT VALUES" ++ ";"
  opens : (Piece.switchText config insert.table true).toList <+: statement.sql.toList ↔
    insert.primary ≠ "" ∧ insert.primary ∈ insert.changes.setColumns
  closes : (Piece.switchText config insert.table false).toList <:+ statement.sql.toList ↔
    insert.primary ≠ "" ∧ insert.primary ∈ insert.changes.setColumns

theorem boundOfPieces {config : Config} (binds : config.inline = false) (insert : Insert) :
    Piece.allBound config insert.pieces = insert.changes.settings.map (·.2) := by
  rw [Piece.boundOfSites, sitesOfPieces, boundSites, List.flatMap_map, List.map_eq_flatMap]
  simp [binds]

end Insert

theorem insertLinesUp {config : Config} (ordinal : config.ordinal = true)
    (binds : config.inline = false) (mapper : ColumnMapper) (history : List Command)
    (insert : Insert) :
    insert.LinesUp config (((Dialect.new config mapper).after history).insert insert).1 := by
  have written : (((Dialect.new config mapper).after history).insert insert).1 =
      ⟨insert.text config, insert.changes.settings.map (·.2)⟩ := by
    rw [Dialect.insert, Dialect.writeAfter, Statement.extendedEmpty,
      Insert.textOfTokens ordinal binds, Insert.boundOfPieces binds]
  rw [written]
  refine ⟨insert.changes.ascendingColumns, fun column => ?_, fun _ => Keyed.ofListPerm, rfl,
    by rw [List.length_map, Changes.setColumnsLength], fun index column listed => ?_,
    fun unset => ⟨?_, Insert.textUnset config unset⟩, ?_, ?_⟩
  · simp only [Changes.memSetColumns, Option.isSome_iff_exists, Changes.valueIff]
  · rw [← Changes.settingsColumns, List.getElem?_map] at listed
    obtain ⟨⟨name, value⟩, held, rfl⟩ := Option.map_eq_some_iff.mp listed
    obtain ⟨inside, _⟩ := List.getElem?_eq_some_iff.mp held
    have set := Changes.memSettings.mp (List.mem_of_getElem? held)
    refine ⟨?_, value, ?_, Changes.valueIff.mp set⟩
    · simp [Piece.slots, Changes.setColumnsLength, inside]
    · simp [held]
  · rw [List.map_eq_nil_iff, ← List.length_eq_zero_iff, ← Changes.setColumnsLength, unset]
    rfl
  · exact (insert.opensIff config).trans insert.bringsIff
  · exact (insert.closesIff config).trans insert.bringsIff

def Insert.seat : Insert where
  table := "seat"
  primary := "id"
  changes := .ofList
    [("row", .set (.int 2)), ("taken", .increase (.int 1)), ("id", .set (.int 7)),
      ("seen = ?", .fragment [.null])]

theorem seatLinesUp :
    let dialect := (Dialect.new {} Column.nativeType).after [.escape "row"]
    Insert.seat.LinesUp {} (dialect.insert .seat).1 ∧
    (dialect.insert .seat).1 = ⟨"SET IDENTITY_INSERT [seat] ON; " ++
      "INSERT INTO [seat] ([id],[row]) OUTPUT [INSERTED].[id] VALUES (@p1,@p2); " ++
      "SET IDENTITY_INSERT [seat] OFF;", [.int 7, .int 2]⟩ := by
  refine ⟨insertLinesUp rfl rfl Column.nativeType [.escape "row"] .seat, ?_⟩
  cbv

end Sqlwright
