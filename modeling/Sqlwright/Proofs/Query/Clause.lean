import Mathlib
import Sqlwright.Dialect
import Sqlwright.Proofs.Query.NormalForm
import Sqlwright.Proofs.Query.Projection

/-! Clauses that are left out for a filter with nothing to write. Whatever else a filter says, it
writes a parenthesis, an operator or a word, unless it comes down to a raw text without a single
character. Such a filter is not empty, so the word of its clause stands before nothing. -/
namespace Sqlwright

namespace Draft

theorem writeAdds (config : Config) (draft : Draft) (piece : Piece) :
    ∃ text, (draft.write config piece).statement.sql = draft.statement.sql ++ text ∧
      ∀ sql, piece = .text sql → text = sql := by
  cases piece with
  | text sql => exact ⟨sql, rfl, fun _ same => Piece.text.inj same⟩
  | field name => exact ⟨_, rfl, by simp⟩
  | value item =>
    cases mode : config.inline with
    | true => exact ⟨_, by simp only [write, Statement.bind, mode]; rfl, by simp⟩
    | false => exact ⟨_, by simp only [write, Statement.bind, mode]; rfl, by simp⟩
  | quoted content => exact ⟨_, rfl, by simp⟩
  | arguments items => exact ⟨"", String.append_empty.symm, by simp⟩

theorem writeAllAdds (config : Config) (draft : Draft) (pieces : List Piece) :
    ∃ text, (draft.writeAll config pieces).statement.sql = draft.statement.sql ++ text ∧
      ∀ sql, .text sql ∈ pieces → sql ≠ "" → text ≠ "" := by
  induction pieces generalizing draft with
  | nil => exact ⟨"", String.append_empty.symm, by simp⟩
  | cons piece rest ih =>
    obtain ⟨first, added, only⟩ := draft.writeAdds config piece
    obtain ⟨later, more, some⟩ := ih (draft.write config piece)
    refine ⟨first ++ later, ?_, fun sql inside written => ?_⟩
    · rw [← String.append_assoc, ← added]
      exact more
    · rw [Ne, String.append_eq_empty_iff, not_and_or]
      rcases List.mem_cons.mp inside with same | behind
      · exact .inl (only sql same.symm ▸ written)
      · exact .inr (some sql behind written)

end Draft

mutual

theorem Filter.normalWritten : ∀ filter : Filter, filter.isNormal = true → filter.isEmpty = false
  | .and children, normal => by
      simp only [Filter.isNormal, Bool.and_eq_true, decide_eq_true_eq] at normal
      exact Filter.allNormalWritten children (by rintro rfl; simp at normal) normal.2
  | .or children, normal => by
      simp only [Filter.isNormal, Bool.and_eq_true, decide_eq_true_eq] at normal
      exact Filter.allNormalWritten children (by rintro rfl; simp at normal) normal.2
  | .not children, normal => by
      simp only [Filter.isNormal, Bool.and_eq_true, beq_iff_eq] at normal
      exact Filter.allNormalWritten children (by rintro rfl; simp at normal) normal.2
  | .compare .., _ => rfl
  | .null .., _ => rfl
  | .among .., _ => rfl
  | .like .., _ => rfl
  | .fragment .., _ => rfl
termination_by structural filter => filter

theorem Filter.allNormalWritten : ∀ children : List Filter, children ≠ [] →
    Filter.allNormal children = true → Filter.allEmpty children = false
  | [], several, _ => absurd rfl several
  | child :: rest, _, normal => by
      simp only [Filter.allNormal, Bool.and_eq_true] at normal
      rw [Filter.allEmpty, Filter.normalWritten child normal.1, Bool.false_and]
termination_by structural children => children

end

namespace Filter

theorem normalPartsLength {children : List Filter} (normal : allNormal children = true) :
    (writtenParts children).length = children.length := by
  induction children with
  | nil => rfl
  | cons child rest ih =>
    simp only [allNormal, Bool.and_eq_true] at normal
    rw [writtenParts, child.normalWritten normal.1, if_neg (by simp), List.length_cons,
      List.length_cons, ih normal.2]

def Blank (filter : Filter) : Prop := ∃ values, filter.normal = .fragment "" values

def Says (filter : Filter) : Prop := ∃ sql, .text sql ∈ filter.pieces ∧ sql ≠ ""

theorem saysGrouped (junction : Junction) {children : List Filter} (several : 1 < children.length)
    (normal : allNormal children = true) : (junction.filter children).Says := by
  refine ⟨"(", ?_, by decide⟩
  rw [junction.filterPieces, Piece.grouped, if_pos (by rwa [normalPartsLength normal])]
  exact List.mem_cons_self

theorem normalSays : ∀ {filter : Filter}, filter.isNormal = true →
    filter.Says ∨ ∃ values, filter = .fragment "" values
  | .and children, normal => by
      simp only [isNormal, Bool.and_eq_true, decide_eq_true_eq] at normal
      exact .inl (saysGrouped .and normal.1 normal.2)
  | .or children, normal => by
      simp only [isNormal, Bool.and_eq_true, decide_eq_true_eq] at normal
      exact .inl (saysGrouped .or normal.1 normal.2)
  | .not children, normal => by
      have written : allEmpty children = false := normalWritten (.not children) normal
      refine .inl ⟨"NOT ", ?_, by decide⟩
      rw [pieces, written]
      exact List.mem_cons_self
  | .compare field comparison operand, _ =>
      .inl ⟨comparison.sql, by simp [pieces], by cases comparison <;> decide⟩
  | .null field negated, _ =>
      .inl ⟨_, List.mem_cons_of_mem _ List.mem_cons_self, by cases negated <;> decide⟩
  | .among field operands negated, _ => by
      refine .inl ?_
      unfold Says
      rw [pieces, amongPieces]
      split
      · exact ⟨_, List.mem_cons_self, by cases negated <;> decide⟩
      · exact ⟨_, List.mem_cons_of_mem _ List.mem_cons_self, by cases negated <;> decide⟩
  | .like field pattern negated, _ =>
      .inl ⟨_, List.mem_cons_of_mem _ List.mem_cons_self, by cases negated <;> decide⟩
  | .fragment sql values, _ => by
      by_cases blank : sql = ""
      · exact .inr ⟨values, by rw [blank]⟩
      · exact .inl ⟨sql, List.mem_cons_self, blank⟩

theorem saysOrBlank {filter : Filter} (written : filter.isEmpty = false) :
    filter.Says ∨ filter.Blank := by
  rcases normalSays (filter.normalNormal written) with ⟨sql, inside, some⟩ | blank
  · rw [filter.normalPieces] at inside
    exact .inl ⟨sql, inside, some⟩
  · exact .inr blank

theorem blankWritten {filter : Filter} (blank : filter.Blank) : filter.isEmpty = false := by
  obtain ⟨values, same⟩ := blank
  rw [← filter.normalEmpty, same]
  rfl

theorem writeBlank (config : Config) (draft : Draft) {filter : Filter} (blank : filter.Blank) :
    (draft.writeAll config filter.pieces).statement.sql = draft.statement.sql := by
  obtain ⟨values, same⟩ := blank
  rw [← filter.normalPieces, same]
  exact String.append_empty

theorem writeSaid (config : Config) (draft : Draft) {filter : Filter}
    (written : filter.isEmpty = false) :
    ∃ text, (draft.writeAll config filter.pieces).statement.sql = draft.statement.sql ++ text ∧
      (text = "" ↔ filter.Blank) := by
  obtain ⟨text, added, some⟩ := draft.writeAllAdds config filter.pieces
  refine ⟨text, added, fun none => ?_, fun blank => ?_⟩
  · rcases saysOrBlank written with ⟨sql, inside, said⟩ | blank
    · exact absurd none (some sql inside said)
    · exact blank
  · rw [writeBlank config draft blank] at added
    simpa using added.symm

end Filter

inductive Host where
  | rows (query : Query)
  | groups (query : Query)
  | link (join : Join)
  | update (statement : Update)
  | delete (statement : Delete)
  | index (definition : Index)

namespace Host

def pieces (filter : Filter) : Host → List Piece
  | .rows query => { query with filter }.pieces
  | .groups query => { query with having := filter }.pieces
  | .link join => { join with filter }.pieces
  | .update statement => { statement with filter }.pieces
  | .delete statement => { statement with filter }.pieces
  | .index definition => { definition with filter }.sketch.pieces

def takes : Host → Bool
  | .rows query => query.statement?.isNone
  | .groups query => query.statement?.isNone && !query.groupFields.isEmpty
  | .link join => !join.table.isEmpty
  | .update _ => true
  | .delete _ => true
  | .index definition => definition.operation == .create

def word : Host → String
  | .groups _ => " HAVING "
  | .link join => if !join.source.isEmpty && !join.target.isEmpty then " AND " else " ON "
  | .index definition => if definition.unique then " AND " else " WHERE "
  | _ => " WHERE "

def clause (filter : Filter) (host : Host) : List Piece :=
  if host.takes then Piece.clause host.word filter.isEmpty filter.pieces else []

def Splits (host : Host) (before after : List Piece) : Prop :=
  ∀ filter, host.pieces filter = before ++ (host.clause filter ++ after)

theorem splitsUntaken {host : Host} (untaken : host.takes = false) {pieces : List Piece}
    (same : ∀ filter, host.pieces filter = pieces) : host.Splits pieces [] := by
  intro filter
  simp [same, clause, untaken]

theorem splitsRows {query : Query} (structured : query.statement? = none) :
    (rows query).Splits
      (Query.selectPieces query.fields query.distinct query.limit query.offset ++
        (Query.tablePieces query.table ++ Join.allPieces query.joins))
      query.laterPieces := by
  intro filter
  have other : ({ query with filter } : Query).statement? = none := structured
  have taken : (rows query).takes = true := by simp [takes, structured]
  rw [pieces, Query.piecesStructured other, clause, if_pos taken, Query.tailPieces]
  simp only [List.append_assoc]
  rfl

theorem splitsGroups {query : Query} (structured : query.statement? = none) :
    (groups query).Splits
      (Query.selectPieces query.fields query.distinct query.limit query.offset ++
        (Query.tablePieces query.table ++ (Join.allPieces query.joins ++
          (Piece.clause " WHERE " query.filter.isEmpty query.filter.pieces ++
            Piece.clause " GROUP BY " query.groupFields.isEmpty
              (Piece.fields "," query.groupFields)))))
      (Query.orderPieces query.sorts query.offset ++
        (Query.windowPieces query.limit query.offset ++ Query.lockPieces query.lock?)) := by
  intro having
  have other : ({ query with having } : Query).statement? = none := structured
  rw [pieces, Query.piecesStructured other, Query.tailPieces, Query.laterPieces]
  cases ungrouped : query.groupFields.isEmpty <;>
    simp [clause, takes, word, structured, ungrouped, Piece.clause]

theorem splitsLink {join : Join} (named : join.table.isEmpty = false) :
    (link join).Splits
      ([Piece.text " ", .text join.mode, .arguments join.arguments, .text " ", .field join.table] ++
        if !join.source.isEmpty && !join.target.isEmpty then
          [Piece.text " ON ", .field join.source, .text "=", .field join.target] else [])
      [] := by
  intro filter
  simp [pieces, clause, takes, word, Join.pieces, Join.piecesWith, named]

theorem splitsUpdate (update : Update) :
    (Host.update update).Splits
      ([Piece.text "UPDATE ", .field update.table, .text " SET "] ++
        Piece.separated "," ((update.changes.assigned update.primary).map Update.assignment))
      [Piece.text ";"] := by
  intro filter
  simp [pieces, clause, takes, word, Update.pieces]

theorem splitsDelete (delete : Delete) :
    (Host.delete delete).Splits [.text "DELETE FROM ", .field delete.table] [.text ";"] := by
  intro filter
  simp [pieces, clause, takes, word, Delete.pieces]

theorem splitsIndex {index : Index} (creates : index.operation = .create) :
    (Host.index index).Splits
      ((if index.optional then index.absenceGuard else []) ++ [Piece.text "CREATE "] ++
        (if index.unique then [Piece.text "UNIQUE NONCLUSTERED "] else []) ++
        [Piece.text "INDEX ", .field index.name, .text " ON ", .field index.table] ++
        Piece.columnList index.columns ++
        Piece.clause " WHERE " (!index.unique) (Index.presencePieces index.columns))
      (Piece.options index.options ++ [Piece.text ";"]) := by
  intro filter
  simp [pieces, clause, takes, word, Index.sketch, Index.ended, Sketch.of, Index.createPieces,
    Index.absenceGuard, creates]

theorem splits (host : Host) : ∃ before after, host.Splits before after := by
  cases host with
  | rows query =>
    cases raw : query.statement? with
    | none => exact ⟨_, _, splitsRows raw⟩
    | some statement =>
      have untaken : (rows query).takes = false := by simp [takes, raw]
      exact ⟨_, _, splitsUntaken untaken fun _ => Query.piecesRaw raw⟩
  | groups query =>
    cases raw : query.statement? with
    | none => exact ⟨_, _, splitsGroups raw⟩
    | some statement =>
      have untaken : (groups query).takes = false := by simp [takes, raw]
      exact ⟨_, _, splitsUntaken untaken fun _ => Query.piecesRaw raw⟩
  | link join =>
    cases named : join.table.isEmpty with
    | false => exact ⟨_, _, splitsLink named⟩
    | true =>
      have untaken : (link join).takes = false := by simp [takes, named]
      have same : ∀ filter, (link join).pieces filter =
          [.text " ", .text join.mode, .arguments join.arguments] := fun filter => by
        simp [pieces, Join.pieces, Join.piecesWith, named]
      exact ⟨_, _, splitsUntaken untaken same⟩
  | update statement => exact ⟨_, _, splitsUpdate statement⟩
  | delete statement => exact ⟨_, _, splitsDelete statement⟩
  | index definition =>
    by_cases creates : definition.operation = .create
    · exact ⟨_, _, splitsIndex creates⟩
    · have untaken : (Host.index definition).takes = false := by simp [takes, creates]
      have same : ∀ filter, (Host.index definition).pieces filter =
          definition.sketch.pieces := fun filter => by
        cases operation : definition.operation with
        | create => exact absurd operation creates
        | drop => simp [pieces, Index.sketch, Index.ended, Sketch.of, Index.dropPieces, operation]
        | alter | rename => simp [pieces, Index.sketch, Sketch.stopped, operation]
      exact ⟨_, _, splitsUntaken untaken same⟩

structure Guards (config : Config) (draft : Draft) (filter : Filter) (host : Host)
    (before after : List Piece) : Prop where
  splits : host.Splits before after
  absent : host.takes = false ∨ filter.isEmpty = true →
    draft.writeAll config (host.pieces filter) = draft.writeAll config (before ++ after)
  present : host.takes = true → filter.isEmpty = false → ∃ text,
    ((draft.writeAll config before).writeAll config (host.clause filter)).statement.sql =
      (draft.writeAll config before).statement.sql ++ host.word ++ text ∧
    (text = "" ↔ filter.Blank)

theorem guards (config : Config) (draft : Draft) (filter : Filter) (host : Host) :
    ∃ before after, host.Guards config draft filter before after := by
  obtain ⟨before, after, splits⟩ := host.splits
  refine ⟨before, after, splits, fun absent => ?_, fun taken written => ?_⟩
  · have nothing : host.clause filter = [] := by
      rcases absent with untaken | empty
      · simp [clause, untaken]
      · simp [clause, Piece.clause, empty]
    rw [splits, nothing, List.nil_append]
  · have clause : host.clause filter = .text host.word :: filter.pieces := by
      simp [clause, Piece.clause, taken, written]
    rw [clause]
    exact filter.writeSaid config ((draft.writeAll config before).write config (.text host.word))
      written

end Host

theorem emptyIffUnwritten (config : Config) (draft : Draft) (filter : Filter) :
    ((draft.writeAll config filter.pieces).statement.sql = draft.statement.sql ↔
      filter.isEmpty = true ∨ filter.Blank) ∧
    (filter.Blank → filter.isEmpty = false) ∧
    (filter.isEmpty = true → draft.writeAll config filter.pieces = draft) ∧
    ∀ host : Host, ∃ before after, host.Guards config draft filter before after := by
  have unchanged : filter.isEmpty = true → draft.writeAll config filter.pieces = draft :=
    fun empty => by
      rw [Filter.emptyPieces empty]
      rfl
  refine ⟨⟨fun same => ?_, ?_⟩, Filter.blankWritten, unchanged, fun host => host.guards config draft filter⟩
  · cases written : filter.isEmpty with
    | true => exact .inl rfl
    | false =>
      obtain ⟨text, added, blank⟩ := filter.writeSaid config draft written
      refine .inr (blank.mp ?_)
      rw [same] at added
      simpa using added.symm
  · rintro (empty | blank)
    · rw [unchanged empty]
    · exact filter.writeBlank config draft blank

def Filter.mute : Filter := .fragment "" []

theorem muteClausesOpen :
    Filter.mute.isEmpty = false ∧
    (Draft.writeAll {} (.start .empty) Filter.mute.pieces).statement.sql = "" ∧
    (Dialect.standard.query ((Query.ofTable "t").restrict .mute)).1.sql =
      "SELECT * FROM [t] WHERE ;" ∧
    (Dialect.standard.query (((Query.ofTable "t").groupBy ["a"]).restrictGroups .mute)).1.sql =
      "SELECT * FROM [t] GROUP BY [a] HAVING ;" ∧
    (Dialect.standard.query ((Query.ofTable "t").join
      { Join.on "JOIN" "u" "t.a" "u.b" with filter := .mute })).1.sql =
      "SELECT * FROM [t] JOIN [u] ON [t].[a]=[u].[b] AND ;" ∧
    (Dialect.standard.update ⟨"t", "", .ofList [("a", .set (.int 1))], .mute⟩).1.sql =
      "UPDATE [t] SET [a]=@p1 WHERE ;" ∧
    (Dialect.standard.delete ⟨"t", .mute⟩).1.sql = "DELETE FROM [t] WHERE ;" ∧
    (Dialect.standard.index ⟨.create, "t", "ix", ["a"], false, false, .mute, ""⟩).1 =
      .ok ⟨"CREATE INDEX [ix] ON [t] ([a]) WHERE ;", []⟩ := by
  refine ⟨rfl, ?_, ?_, ?_, ?_, ?_, ?_, ?_⟩ <;> cbv

end Sqlwright
