import Mathlib
import Sqlwright.Proofs.Query.Embedding
import Sqlwright.Proofs.Query.Projection

/-! The pages of queries. A query that skips no rows may ask for the first ones before its
projection; one that skips rows says so behind its order, and how many it wants after that. An
order that is not given is the one by the first column. Read in the order in which they are
written, the clauses choose the rows of the page, at any depth at which the query stands. -/
namespace Sqlwright
open Identifier (Cache Rules)

inductive SortTerm where
  | first
  | field (sort : SortKey)

def SortTerm.text (config : Config) : SortTerm → String
  | .first => "1 ASC"
  | .field sort =>
      (Rules.ofConfig config).escape sort.field ++ if sort.ascending then " ASC" else " DESC"

inductive PageClause where
  | top (count : Nat)
  | order (terms : List SortTerm)
  | offset (count : Nat)
  | fetch (count : Nat)

namespace PageClause

def text (config : Config) : PageClause → String
  | .top count => " TOP " ++ toString count
  | .order terms => " ORDER BY " ++ ",".intercalate (terms.map (SortTerm.text config))
  | .offset count => " OFFSET " ++ toString count ++ " ROWS"
  | .fetch count => " FETCH NEXT " ++ toString count ++ " ROWS ONLY"

def choose {α : Type} (rows : List α) : PageClause → List α
  | .top count => rows.take count
  | .order _ => rows
  | .offset count => rows.drop count
  | .fetch count => rows.take count

def texts (config : Config) : List PageClause → String
  | [] => ""
  | clause :: rest => clause.text config ++ texts config rest

theorem textsAppend (config : Config) (first second : List PageClause) :
    texts config (first ++ second) = texts config first ++ texts config second := by
  induction first with
  | nil => exact String.empty_append.symm
  | cons clause rest ih => rw [List.cons_append, texts, texts, ih, String.append_assoc]

end PageClause

namespace Query

def leading (query : Query) : List PageClause :=
  match query.limit, query.offset with
  | limit + 1, 0 => [.top (limit + 1)]
  | _, _ => []

def sortTerms (query : Query) : List SortTerm :=
  match query.sorts, query.offset with
  | [], 0 => []
  | [], _ + 1 => [.first]
  | sorts, _ => sorts.map .field

def ordering (query : Query) : List PageClause :=
  if query.sortTerms.isEmpty then [] else [.order query.sortTerms]

def fetching (query : Query) : List PageClause :=
  if query.limit = 0 then [] else [.fetch query.limit]

def paging (query : Query) : List PageClause :=
  if query.offset = 0 then [] else .offset query.offset :: query.fetching

def trailing (query : Query) : List PageClause := query.ordering ++ query.paging

def lockText : Option String → String
  | some lock => if lock.isEmpty then "" else " " ++ lock
  | none => ""

def bodyPieces (query : Query) : List Piece :=
  tablePieces query.table ++ (Join.allPieces query.joins ++
    (Piece.clause " WHERE " query.filter.isEmpty query.filter.pieces ++
      Piece.clause " GROUP BY " query.groupFields.isEmpty (Piece.fields "," query.groupFields ++
        Piece.clause " HAVING " query.having.isEmpty query.having.pieces)))

def text (config : Config) (count : Nat) (query : Query) : String :=
  "SELECT" ++ (if query.distinct then " DISTINCT" else "") ++
    PageClause.texts config query.leading ++
    projectionText (query.fields.map (Rules.ofConfig config).escape) ++
    Token.joined config (Piece.allTokens config count query.bodyPieces) ++
    PageClause.texts config query.trailing ++ lockText query.lock?

theorem headLeading (config : Config) (query : Query) :
    query.headText = "SELECT" ++ (if query.distinct then " DISTINCT" else "") ++
      PageClause.texts config query.leading := by
  unfold headText leading
  cases query.limit <;> cases query.offset <;> simp [PageClause.texts, PageClause.text]

theorem sortTexts (config : Config) (count : Nat) (sorts : List SortKey) :
    Piece.partTexts config count (sorts.map sortPieces) =
      (sorts.map SortTerm.field).map (SortTerm.text config) := by
  induction sorts generalizing count with
  | nil => rfl
  | cons sort rest ih =>
    have own : Token.joined config (Piece.allTokens config count (sortPieces sort)) =
        (SortTerm.field sort).text config := by
      rw [sortPieces, Piece.fieldOfTokens, Piece.textAlone, SortTerm.text]
    rw [List.map_cons, List.map_cons, List.map_cons, Piece.partTexts, own, ih]

theorem orderOfTokens (config : Config) (count : Nat) (query : Query) :
    Token.joined config (Piece.allTokens config count (orderPieces query.sorts query.offset)) =
      PageClause.texts config query.ordering := by
  unfold ordering sortTerms orderPieces
  cases query.sorts with
  | nil =>
    cases query.offset with
    | zero => rfl
    | succ offset =>
      rw [List.isEmpty_nil, if_pos rfl, if_pos offset.succ_pos]
      rfl
  | cons sort rest =>
    rw [if_neg (by simp), if_neg (by simp), Piece.textOfTokens, Piece.partsOfTokens, sortTexts]
    exact String.append_empty.symm

theorem pagingOfTokens (config : Config) (count : Nat) (query : Query) :
    Token.joined config (Piece.allTokens config count (windowPieces query.limit query.offset)) =
      PageClause.texts config query.paging := by
  unfold paging fetching windowPieces
  split
  · rfl
  · rw [Piece.textOfTokens]
    cases query.limit with
    | zero => rfl
    | succ limit =>
      rw [if_pos limit.succ_pos, Piece.textOfTokens]
      rfl

theorem lockOfTokens (config : Config) (count : Nat) (lock? : Option String) :
    Token.joined config (Piece.allTokens config count (lockPieces lock?)) = lockText lock? := by
  unfold lockPieces lockText
  cases lock? with
  | none => rfl
  | some lock =>
    dsimp only
    split
    · rfl
    · rw [Piece.textOfTokens, Piece.textAlone]

theorem textOfTokens (config : Config) (count : Nat) {query : Query}
    (structured : query.statement? = none) :
    Token.joined config (Piece.allTokens config count query.pieces) = query.text config count := by
  have unbound : Piece.allBound config
      (selectPieces query.fields query.distinct query.limit query.offset) = [] :=
    Piece.boundWithoutSites config (sitesSelect ..)
  have tail : query.tailPieces = query.bodyPieces ++ (orderPieces query.sorts query.offset ++
      (windowPieces query.limit query.offset ++ lockPieces query.lock?)) := by
    simp only [tailPieces, laterPieces, bodyPieces, List.append_assoc]
  rw [piecesStructured structured, tail, text, trailing, PageClause.textsAppend, ← headLeading]
  simp only [Piece.allTokensAppend, Token.joinedAppend, unbound, selectOfTokens, orderOfTokens,
    pagingOfTokens, lockOfTokens, String.append_assoc, List.length_nil, Nat.add_zero]

theorem memLeading {query : Query} {clause : PageClause} :
    clause ∈ query.leading ↔
      clause = .top query.limit ∧ 0 < query.limit ∧ query.offset = 0 := by
  unfold leading
  cases query.limit <;> cases query.offset <;> simp

theorem memOrdering {query : Query} {clause : PageClause} (member : clause ∈ query.ordering) :
    clause = .order query.sortTerms := by
  unfold ordering at member
  split at member
  · cases member
  · exact List.mem_singleton.mp member

theorem chooseOrdering {α : Type} (query : Query) (rows : List α) :
    query.ordering.foldl PageClause.choose rows = rows := by
  unfold ordering
  split <;> rfl

theorem sortTermsSkipping {query : Query} (skips : 0 < query.offset) :
    query.sortTerms = if query.sorts.isEmpty then [.first] else query.sorts.map .field := by
  unfold sortTerms
  cases query.sorts with
  | nil =>
    cases offset : query.offset with
    | zero => exact absurd offset skips.ne'
    | succ offset => rfl
  | cons sort rest => rfl

theorem trailingSkipping {query : Query} (skips : 0 < query.offset) :
    query.trailing = .order query.sortTerms :: .offset query.offset :: query.fetching := by
  have sorted : query.sortTerms.isEmpty = false := by
    rw [sortTermsSkipping skips]
    cases query.sorts <;> rfl
  rw [trailing, ordering, sorted, paging, if_neg skips.ne']
  rfl

theorem trailingUnskipped {query : Query} (stays : query.offset = 0) :
    query.trailing = query.ordering := by
  rw [trailing, paging, if_pos stays, List.append_nil]

theorem memFetching {query : Query} {clause : PageClause} :
    clause ∈ query.fetching ↔ clause = .fetch query.limit ∧ 0 < query.limit := by
  unfold fetching
  cases query.limit <;> simp

theorem memTrailing {query : Query} {clause : PageClause}
    (other : ∀ terms, clause ≠ .order terms) : clause ∈ query.trailing ↔ 0 < query.offset ∧
      (clause = .offset query.offset ∨ clause = .fetch query.limit ∧ 0 < query.limit) := by
  rcases Nat.eq_zero_or_pos query.offset with stays | skips
  · rw [trailingUnskipped stays, stays]
    exact iff_of_false (fun member => other _ (memOrdering member))
      fun ⟨skips, _⟩ => Nat.lt_irrefl 0 skips
  · rw [trailingSkipping skips, List.mem_cons, List.mem_cons, memFetching, and_iff_right skips,
      or_iff_right (other _)]

theorem beforeOffset {query : Query} {before after : List PageClause} {count : Nat}
    (split : query.trailing = before ++ .offset count :: after) :
    0 < query.offset ∧ before = [.order query.sortTerms] := by
  have member : .offset count ∈ query.trailing := by simp [split]
  have skips := ((memTrailing (by simp)).mp member).1
  have unfetched : .offset count ∉ query.fetching := by simp [memFetching]
  have cut : [.order query.sortTerms] ++ .offset query.offset :: query.fetching =
      before ++ .offset count :: after := (trailingSkipping skips).symm.trans split
  exact ⟨skips, ((List.append_cons_inj_of_notMem (by simp) unfetched).mp cut).1.symm⟩

theorem beforeFetch {query : Query} {before after : List PageClause} {count : Nat}
    (split : query.trailing = before ++ .fetch count :: after) :
    before = [.order query.sortTerms, .offset query.offset] := by
  have member : .fetch count ∈ query.trailing := by simp [split]
  obtain ⟨skips, fetched⟩ := (memTrailing (by simp)).mp member
  have limited : query.limit ≠ 0 := (fetched.resolve_left (by simp)).2.ne'
  have cut : [.order query.sortTerms, .offset query.offset] ++ .fetch query.limit :: [] =
      before ++ .fetch count :: after := by
    rw [← split, trailingSkipping skips, fetching, if_neg limited]
    rfl
  exact ((List.append_cons_inj_of_notMem (by simp) List.not_mem_nil).mp cut).1.symm

structure Paged (query : Query) : Prop where
  leads : ∀ clause ∈ query.leading, ∃ count, clause = .top count
  follows : ∀ count, .top count ∉ query.trailing
  apart : ∀ first skipped, .top first ∈ query.leading → .offset skipped ∉ query.trailing
  skips : ∀ count, .offset count ∈ query.trailing ↔ count = query.offset ∧ 0 < query.offset
  ordered : ∀ before count after, query.trailing = before ++ .offset count :: after →
    ∃ terms, before = [.order terms] ∧ terms ≠ [] ∧
      terms = if query.sorts.isEmpty then [.first] else query.sorts.map .field
  fetched : ∀ before count after, query.trailing = before ++ .fetch count :: after →
    ∃ earlier, before = earlier ++ [.offset query.offset]
  window : ∀ (α : Type) (rows : List α),
    (query.leading ++ query.trailing).foldl PageClause.choose rows =
      if query.limit = 0 then rows.drop query.offset
      else (rows.drop query.offset).take query.limit

theorem windowChosen {α : Type} (query : Query) (rows : List α) :
    (query.leading ++ query.trailing).foldl PageClause.choose rows =
      if query.limit = 0 then rows.drop query.offset
      else (rows.drop query.offset).take query.limit := by
  rw [List.foldl_append, trailing, List.foldl_append, chooseOrdering]
  unfold leading paging fetching
  cases query.limit <;> cases query.offset <;> rfl

theorem paged (query : Query) : query.Paged := by
  refine ⟨fun clause member => ⟨_, (memLeading.mp member).1⟩, fun count member => ?_,
    fun first skipped leads member => ?_, fun count => ?_, fun before count after split => ?_,
    fun before count after split => ?_, fun _ => query.windowChosen⟩
  · have other := ((memTrailing (by simp)).mp member).2
    simp at other
  · have stays := (memLeading.mp leads).2.2
    have skips := ((memTrailing (by simp)).mp member).1
    exact skips.ne' stays
  · rw [memTrailing (by simp)]
    simp [and_comm]
  · obtain ⟨skips, only⟩ := beforeOffset split
    refine ⟨query.sortTerms, only, ?_, sortTermsSkipping skips⟩
    rw [sortTermsSkipping skips]
    cases query.sorts <;> simp
  · exact ⟨[.order query.sortTerms], beforeFetch split⟩

end Query

namespace Part

def selects : Part → List Query
  | .filter f => f.queries
  | .query q => q :: q.queries

theorem selectsWritten {part : Part} {query : Query} (member : query ∈ part.selects) :
    query.pieces <:+: part.pieces := by
  cases part with
  | filter f => exact Filter.queriesWritten member
  | query q =>
    rcases List.mem_cons.mp member with same | nested
    · exact same ▸ List.infix_rfl
    · exact Query.queriesWritten nested

end Part

theorem pagesChooseWindow (config : Config) (later : List (Rules × String))
    (statement : Statement) (part : Part) {query : Query} (written : query ∈ part.selects)
    (structured : query.statement? = none) :
    let draft : Draft := ⟨statement, .after later⟩
    query.Paged ∧
    (∀ (mapper : ColumnMapper) (history : List Command),
      (((Dialect.new config mapper).after history).query query).1.sql =
        query.text config 0 ++ ";") ∧
    ∃ front back, part.pieces = front ++ query.pieces ++ back ∧
      let reached := draft.writeAll config front
      let passed := reached.writeAll config query.pieces
      passed.statement.sql =
        reached.statement.sql ++ query.text config reached.statement.arguments.length ∧
      draft.writeAll config part.pieces = passed.writeAll config back := by
  intro draft
  obtain ⟨front, back, around⟩ := Part.selectsWritten written
  refine ⟨query.paged, fun mapper history => ?_, front, back, around.symm, ?_, ?_⟩
  · rw [Query.ownStatement, structured]
    exact congrArg (· ++ ";") (Query.textOfTokens config 0 structured)
  · have sound : (draft.writeAll config front).cache.Sound :=
      (Draft.writeAllExtends (Cache.afterSound later) config front).2
    rw [(Draft.writeAllExtends sound config query.pieces).1,
      ← Query.textOfTokens config _ structured]
    rfl
  · rw [← around, Draft.writeAllAppend, Draft.writeAllAppend]

def Query.seatPage : Query :=
  { Query.ofTable "seat" with fields := ["hall"], limit := 10, offset := 20 }

def Query.hallPage : Query :=
  { Query.ofTable "hall" with
    filter := .among "id" [.query .seatPage] false, sorts := [⟨"name", false⟩], limit := 5 }

theorem seatPageChosen :
    let part : Part := .query .hallPage
    let draft : Draft := ⟨.empty, .after []⟩
    Query.seatPage ∈ part.selects ∧ Query.seatPage.statement? = none ∧
    Query.seatPage.Paged ∧ Query.seatPage.leading = [] ∧
    Query.seatPage.trailing = [.order [.first], .offset 20, .fetch 10] ∧
    (∃ front back, part.pieces = front ++ Query.seatPage.pieces ++ back ∧
      let reached := draft.writeAll {} front
      (reached.writeAll {} Query.seatPage.pieces).statement.sql = reached.statement.sql ++
        Query.seatPage.text {} reached.statement.arguments.length) ∧
    (Dialect.standard.query .hallPage).1 = ⟨"SELECT TOP 5 * FROM [hall] WHERE [id] IN (" ++
      "SELECT [hall] FROM [seat] ORDER BY 1 ASC OFFSET 20 ROWS FETCH NEXT 10 ROWS ONLY) " ++
      "ORDER BY [name] DESC;", []⟩ := by
  intro part draft
  have written : Query.seatPage ∈ part.selects :=
    List.mem_cons_of_mem _ (List.mem_singleton.mpr rfl)
  obtain ⟨paged, _, front, back, around, text, _⟩ :=
    pagesChooseWindow {} [] .empty part written rfl
  have stated : (Dialect.standard.query .hallPage).1 =
      ⟨"SELECT TOP 5 * FROM [hall] WHERE [id] IN (" ++
        "SELECT [hall] FROM [seat] ORDER BY 1 ASC OFFSET 20 ROWS FETCH NEXT 10 ROWS ONLY) " ++
        "ORDER BY [name] DESC;", []⟩ := by cbv
  exact ⟨written, rfl, paged, rfl, rfl, ⟨front, back, around, text⟩, stated⟩

end Sqlwright
