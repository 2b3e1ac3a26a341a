import Sqlwright.Proofs.Schema.Index
import Sqlwright.Proofs.Statement.Text
import Sqlwright.Proofs.Query.Fragment

/-! Conditions written next to a raw text with an AND between them: filters that are added to each
other, the columns that a join compares, and the columns that a unique index asks to be present.
Each is read as both conditions unless an OR of a text stands outside parentheses. -/
namespace Sqlwright
open Identifier (Cache Rules)

namespace Join

def linkText (config : Config) (join : Join) : String :=
  (Rules.ofConfig config).escape join.source ++ "=" ++ (Rules.ofConfig config).escape join.target

def isLinked (join : Join) : Bool :=
  !join.table.isEmpty && !join.source.isEmpty && !join.target.isEmpty

structure MeansBoth (lex : String → List Word) (config : Config) (draft : Draft) (join : Join)
    (sql : String) (condition : Filter) : Prop where
  text : (draft.writeAll config join.pieces).statement.sql =
    draft.statement.sql ++ " " ++ join.mode ++ " " ++
      (Rules.ofConfig config).escape join.table ++ " ON " ++ join.linkText config ++ " AND " ++ sql
  reads : ReadsBoth (.leaf (.predicate (join.linkText config)) :: .joins .and :: lex sql)
    (Leaf.predicate (join.linkText config)).filter condition

end Join

namespace Index

def presence (index : Index) : Filter :=
  Junction.and.group (index.columns.map (Filter.null · true))

def presenceWords (index : Index) : List Word :=
  Word.joined .and (index.columns.map fun column => [.leaf ⟨.null column true, rfl⟩])

def words (index : Index) : List Word :=
  index.presenceWords ++ .joins .and :: index.filter.words

def guardText (config : Config) (index : Index) : String :=
  if index.optional then
    "IF NOT EXISTS (SELECT 1 FROM sys.indexes WHERE name = " ++ config.quoted index.name ++
      " AND object_id = OBJECT_ID('" ++ (Rules.ofConfig config).escape index.table ++ "')) "
  else ""

def uniqueText (config : Config) (index : Index) : String :=
  index.guardText config ++ "CREATE UNIQUE NONCLUSTERED INDEX " ++
    (Rules.ofConfig config).escape index.name ++ " ON " ++
    (Rules.ofConfig config).escape index.table ++
    " (" ++ ", ".intercalate (index.columns.map (Rules.ofConfig config).escape) ++ ")"

def endText (index : Index) : String :=
  (if index.options.isEmpty then "" else " " ++ index.options) ++ ";"

structure MeansBoth (lex : String → List Word) (dialect : Dialect) (index : Index)
    (condition : Filter) : Prop where
  text : (dialect.index index).1 =
    .ok ⟨index.uniqueText dialect.config ++ " WHERE " ++
        Word.allText dialect.config.inlined 0 index.words ++ index.endText,
      Word.allBound dialect.config.inlined index.words⟩
  reads : ReadsBoth (Word.cutAll lex index.words) index.presence condition

end Index

variable {lex : String → List Word} {sql : String} {values : List Value} {condition : Filter}

theorem Join.fragmentMeansBoth {draft : Draft} (sound : draft.cache.Sound) (config : Config)
    {join : Join} (linked : join.isLinked = true) (filter : join.filter = .fragment sql values)
    (whole : Conjunctive (lex sql) condition) :
    join.MeansBoth lex config draft sql condition := by
  refine ⟨?_, ((Conjunctive.leaf _).meet whole).1⟩
  obtain ⟨mode, table, source, target, arguments, condition⟩ := join
  cases filter
  simp only [isLinked, Bool.and_eq_true, Bool.not_eq_true'] at linked
  obtain ⟨⟨joins, compares⟩, other⟩ := linked
  rw [(Draft.writeAllExtends sound config _).1]
  simp [pieces, piecesWith, Piece.clause, Filter.isEmpty, Filter.pieces, joins, compares, other,
    linkText, Statement.extended, Piece.allTokens, Piece.tokens, Token.joined, Token.sql,
    String.append_assoc]

namespace Index

theorem presenceConjunctive {index : Index} (some : index.columns ≠ []) :
    Conjunctive index.presenceWords index.presence := by
  obtain ⟨first, rest, columns⟩ := List.exists_cons_of_ne_nil some
  rw [presenceWords, presence, columns]
  have singles : List.Forall₂ Single
      (rest.map fun column => [.leaf ⟨.null column true, rfl⟩])
      (rest.map (Filter.null · true)) :=
    List.forall₂_map_left_iff.mpr (List.forall₂_map_right_iff.mpr
      (List.forall₂_same.mpr fun column _ => Single.leaf ⟨.null column true, rfl⟩))
  exact ⟨_, Single.conjoined (Single.leaf ⟨.null first true, rfl⟩) singles, rfl⟩

theorem presenceUncut (lex : String → List Word) (index : Index) :
    Word.cutAll lex index.presenceWords = index.presenceWords := by
  rw [presenceWords, Word.cutJoined, List.map_map]
  rfl

theorem wordsPieces (index : Index) : Word.allPieces index.words =
    presencePieces index.columns ++ .text " AND " :: index.filter.pieces := by
  rw [words, Word.allPieces, List.flatMap_append, ← Word.allPieces, presenceWords,
    Word.joinedPieces, List.map_map, List.flatMap_cons, ← Word.allPieces, Filter.wordsPieces]
  rfl

def uniquePieces (index : Index) : List Piece :=
  (if index.optional then index.absenceGuard else []) ++
  [.text "CREATE ", .text "UNIQUE NONCLUSTERED ", .text "INDEX ", .field index.name,
    .text " ON ", .field index.table] ++
  Piece.columnList index.columns

theorem columnsOfTokens (config : Config) (count : Nat) (names : List String) :
    Token.joined config (Piece.allTokens config count (Piece.columnList names)) =
      " (" ++ ", ".intercalate (names.map (Rules.ofConfig config).escape) ++ ")" := by
  rw [Piece.columnList, Piece.textOfTokens, Piece.enclosedOfTokens, Piece.fieldsOfTokens,
    ← String.append_assoc, ← String.append_assoc]
  rfl

theorem guardOfTokens (config : Config) (count : Nat) (index : Index) (rest : List Piece) :
    Token.joined config (Piece.allTokens config count
      ((if index.optional then index.absenceGuard else []) ++ rest)) =
    index.guardText config ++ Token.joined config (Piece.allTokens config count rest) := by
  rw [guardText]
  split
  · simp [absenceGuard, Piece.textOfTokens, Piece.fieldOfTokens, Piece.quotedOfTokens,
      String.append_assoc]
  · rw [List.nil_append, String.empty_append]

theorem uniqueOfTokens (config : Config) (index : Index) :
    Token.joined config (Piece.allTokens config 0 index.uniquePieces) =
      index.uniqueText config := by
  rw [uniquePieces, List.append_assoc, guardOfTokens]
  simp only [List.cons_append, List.nil_append, Piece.textOfTokens, Piece.fieldOfTokens,
    columnsOfTokens, uniqueText, String.append_assoc]
  rfl

theorem endOfTokens (config : Config) (count : Nat) (index : Index) :
    Token.joined config (Piece.allTokens config count index.closingPieces) = index.endText := by
  rw [closingPieces, Piece.options, endText]
  split
  · rw [List.nil_append, Piece.textAlone, String.empty_append]
  · rw [List.cons_append, List.cons_append, Piece.textOfTokens, Piece.textOfTokens,
      List.nil_append, Piece.textAlone, String.append_assoc]

theorem sitesUnique (index : Index) : Piece.allSites index.uniquePieces = [] := by
  have guarded : Piece.allSites (if index.optional then index.absenceGuard else []) = [] := by
    split <;> rfl
  rw [uniquePieces, Piece.sitesAppend, Piece.sitesAppend, guarded, Piece.sitesColumnList]
  rfl

theorem filteredPieces {index : Index} (created : index.operation = .create)
    (unique : index.unique = true) (written : index.filter.isEmpty = false) :
    index.sketch = .of (index.uniquePieces ++ .text " WHERE " :: Word.allPieces index.words ++
      index.closingPieces) := by
  rw [wordsPieces]
  simp [sketch, created, ended, createPieces, unique, written, Piece.clause, uniquePieces,
    closingPieces]

theorem filteredText {dialect : Dialect} (sound : dialect.Sound) {index : Index}
    (created : index.operation = .create) (unique : index.unique = true)
    (written : index.filter.isEmpty = false) :
    (dialect.index index).1 =
      .ok ⟨index.uniqueText dialect.config ++ " WHERE " ++
          Word.allText dialect.config.inlined 0 index.words ++ index.endText,
        Word.allBound dialect.config.inlined index.words⟩ := by
  have lead : Piece.allBound dialect.config.inlined index.uniquePieces = [] :=
    Piece.boundWithoutSites _ index.sitesUnique
  have closing : Piece.allBound dialect.config.inlined index.closingPieces = [] :=
    Piece.boundWithoutSites _ index.sitesClosing
  have sql : Token.joined dialect.config.inlined (Piece.allTokens dialect.config.inlined 0
      (index.uniquePieces ++ .text " WHERE " :: Word.allPieces index.words ++
        index.closingPieces)) =
      index.uniqueText dialect.config ++ " WHERE " ++
        Word.allText dialect.config.inlined 0 index.words ++ index.endText := by
    rw [Piece.allTokensAppend, Token.joinedAppend, Piece.allTokensAppend, Token.joinedAppend, lead,
      endOfTokens, Piece.textOfTokens, Word.allTextOfPieces, uniqueOfTokens, ← String.append_assoc]
    rfl
  have arguments : Piece.allBound dialect.config.inlined
      (index.uniquePieces ++ .text " WHERE " :: Word.allPieces index.words ++
        index.closingPieces) = Word.allBound dialect.config.inlined index.words := by
    rw [Piece.allBoundAppend, Piece.allBoundAppend, lead, closing, List.append_nil,
      List.nil_append, ← Word.allBoundOfPieces]
    rfl
  rw [Dialect.index, Dialect.writeSchemaOutcome sound, filteredPieces created unique written,
    Sketch.outcomeOf, Statement.extendedEmpty, sql, arguments]

theorem filteredMeansBoth {dialect : Dialect} (sound : dialect.Sound) {index : Index}
    (created : index.operation = .create) (unique : index.unique = true)
    (some : index.columns ≠ []) (written : index.filter.isEmpty = false)
    (whole : Conjunctive (index.filter.rawWords lex) condition) :
    index.MeansBoth lex dialect condition := by
  refine ⟨filteredText sound created unique written, ?_⟩
  rw [words, Word.cutAppend, presenceUncut]
  exact ((presenceConjunctive some).meet whole).1

end Index

theorem fragmentKeptTogether (lex : String → List Word) (config : Config)
    (mapper : ColumnMapper) (history : List (Rules × String)) (statement : Statement) (sql : String)
    (values : List Value) {condition : Filter} (whole : Conjunctive (lex sql) condition) :
    let raw : Filter := .fragment sql values
    let draft : Draft := ⟨statement, .after history⟩
    (∀ other second : Filter, other.isEmpty = false → Conjunctive (other.rawWords lex) second →
      (raw.andWith other).MeansBoth lex config draft condition second) ∧
    (∀ other first : Filter, other.isEmpty = false → Reads (other.rawWords lex) first →
      other.Joinable lex → (other.andWith raw).MeansBoth lex config draft first condition) ∧
    (∀ join : Join, join.isLinked = true → join.filter = raw →
      join.MeansBoth lex config draft sql condition) ∧
    ∀ index : Index, index.operation = .create → index.unique = true → index.columns ≠ [] →
      index.filter = raw → index.MeansBoth lex ⟨config, mapper, .after history⟩ condition := by
  intro raw draft
  have alone : Conjunctive (raw.rawWords lex) condition := by
    rw [Filter.rawWords, Filter.words, Word.cutAll, List.flatMap_singleton]
    exact whole
  have joinable : raw.Joinable lex := fun member among _ =>
    ⟨condition, List.mem_singleton.mp among ▸ alone⟩
  refine ⟨?_, ?_, ?_, ?_⟩
  · intro other second written kept
    exact Filter.andWithMeansBoth (Cache.afterSound history) config rfl written alone.reads joinable kept
  · intro other first written reads apart
    exact Filter.andWithMeansBoth (Cache.afterSound history) config written rfl reads apart alone
  · intro join linked filter
    exact join.fragmentMeansBoth (Cache.afterSound history) config linked filter whole
  · intro index created unique some filter
    have sound : Dialect.Sound ⟨config, mapper, .after history⟩ := Cache.afterSound history
    exact index.filteredMeansBoth sound created unique some (by rw [filter]; rfl) (filter ▸ alone)

def Word.cutTwo (junction : Junction) (first second text : String) : List Word :=
  if text = first ++ junction.sql ++ second then
    [.leaf (.predicate first), .joins junction, .leaf (.predicate second)]
  else [.leaf (.predicate text)]

namespace Filter

def missing : Filter :=
  .or [.compare "state" .equal (.value (.string "late")), .and [], .not [.fragment "lost = 1" []]]

def dueFee (junction : Junction) : Filter :=
  junction.filter [.fragment "due < 5" [], .fragment "fee > 0" []]

end Filter

def Join.copies (filter : Filter) : Join := ⟨"JOIN", "copy", "copy.book", "book.id", [], filter⟩

theorem dueKeptTogether :
    let lex := Word.cutTwo .and "due < 5" "fee > 0"
    let both : Filter := .dueFee .and
    let raw : Filter := .fragment "due < 5 AND fee > 0" []
    let draft : Draft := .start .empty
    Conjunctive (lex "due < 5 AND fee > 0") both ∧
    Filter.missing.isEmpty = false ∧
    Conjunctive (Filter.missing.rawWords lex) Filter.missing.normal ∧
    Filter.missing.Joinable lex ∧
    (Join.copies raw).isLinked = true ∧
    (raw.andWith .missing).MeansBoth lex {} draft both Filter.missing.normal ∧
    (Filter.missing.andWith raw).MeansBoth lex {} draft Filter.missing.normal both ∧
    (Join.copies raw).MeansBoth lex {} draft "due < 5 AND fee > 0" both ∧
    (Index.filtered raw).MeansBoth lex .standard both ∧
    (draft.writeAll {} (raw.andWith .missing).pieces).statement.sql =
      "(due < 5 AND fee > 0 AND ([state]=@p1 OR NOT lost = 1))" ∧
    (Dialect.standard.index (Index.filtered raw)).1 =
      .ok ⟨"IF NOT EXISTS (SELECT 1 FROM sys.indexes WHERE name = 'ix' AND object_id = " ++
        "OBJECT_ID('[loan]')) CREATE UNIQUE NONCLUSTERED INDEX [ix] ON [loan] ([year]) " ++
        "WHERE [year] IS NOT NULL AND due < 5 AND fee > 0;", []⟩ := by
  intro lex both raw draft
  have whole : Conjunctive (lex "due < 5 AND fee > 0") both :=
    ⟨_, Conjoined.more (Single.leaf (.predicate "due < 5"))
      (Conjoined.one (Single.leaf (.predicate "fee > 0"))), rfl⟩
  have kept : Conjunctive (Filter.missing.rawWords lex) Filter.missing.normal :=
    ⟨_, Conjoined.one (Single.enclosed (Disjoined.more
      (Conjoined.one (Single.leaf ⟨.compare "state" .equal (.value (.string "late")), rfl⟩))
      (Disjoined.one (Conjoined.one (Single.negated (Single.leaf (.predicate "lost = 1"))))))), rfl⟩
  have apart : Filter.missing.Joinable lex := Filter.joinable fun text inside => by
    cases List.mem_singleton.mp inside
    exact ⟨_, Conjunctive.leaf (.predicate "lost = 1")⟩
  have linked : (Join.copies raw).isLinked = true := rfl
  obtain ⟨after, before, join, index⟩ := fragmentKeptTogether lex {} Column.nativeType [] .empty
    "due < 5 AND fee > 0" [] whole
  exact ⟨whole, rfl, kept, apart, linked, after .missing _ rfl kept,
    before .missing _ rfl kept.reads apart, join _ linked rfl,
    index (.filtered raw) rfl rfl (List.cons_ne_nil _ _) rfl, by cbv, by cbv⟩

theorem eitherFallsApart :
    let lex := Word.cutTwo .or "due < 5" "fee > 0"
    let either : Filter := .dueFee .or
    let raw : Filter := .fragment "due < 5 OR fee > 0" []
    let other : Filter := .fragment "copy = 3" []
    let draft : Draft := .start .empty
    Reads (lex "due < 5 OR fee > 0") either ∧
    Conjunctive (lex "copy = 3") other ∧
    raw.isEmpty = false ∧ other.isEmpty = false ∧
    (draft.writeAll {} (raw.andWith other).pieces).statement.sql =
      "(due < 5 OR fee > 0 AND copy = 3)" ∧
    ¬(raw.andWith other).MeansBoth lex {} draft either other ∧
    (draft.writeAll {} (other.andWith raw).pieces).statement.sql =
      "(copy = 3 AND due < 5 OR fee > 0)" ∧
    ¬(other.andWith raw).MeansBoth lex {} draft other either := by
  intro lex either raw other draft
  let truth : Truth Bool := ⟨not, fun leaf => leaf.filter.rawTexts != ["copy = 3"]⟩
  have before : Reader.read ((raw.andWith other).rawWords lex) =
      some (.or [.fragment "due < 5" [], .and [.fragment "fee > 0" [], other]]) := rfl
  have after : Reader.read ((other.andWith raw).rawWords lex) =
      some (.or [.and [other, .fragment "due < 5" []], .fragment "fee > 0" []]) := rfl
  refine ⟨⟨_, Disjoined.more (Conjoined.one (Single.leaf (.predicate "due < 5")))
    (Disjoined.one (Conjoined.one (Single.leaf (.predicate "fee > 0")))), rfl⟩,
    Conjunctive.leaf (.predicate "copy = 3"), rfl, rfl, by cbv, ?_, by cbv, ?_⟩
  · intro means
    exact Bool.noConfusion (means.reads.meets before truth)
  · intro means
    exact Bool.noConfusion (means.reads.meets after truth)

end Sqlwright
