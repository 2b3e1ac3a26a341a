import Mathlib
import Sqlwright.Proofs.Query.Precedence

/-! The meaning of a written filter. Its words are read as its normal form, and as nothing else:
parentheses stand wherever the precedence would regroup a filter, though a single child goes
without them and a skipped one leaves no trace. -/
namespace Sqlwright
open Identifier (Cache Rules)

namespace Single

theorem conjoined {part : List Word} {parts : List (List Word)} {filter : Filter}
    {filters : List Filter} (first : Single part filter)
    (rest : List.Forall₂ Single parts filters) :
    Conjoined (Word.joined .and (part :: parts)) (filter :: filters) := by
  induction rest generalizing part filter with
  | nil =>
    rw [Word.joinedOne]
    exact Conjoined.one first
  | cons next later ih =>
    rw [Word.joinedMore]
    exact Conjoined.more first (ih next)

theorem disjoined {part : List Word} {parts : List (List Word)} {filter : Filter}
    {filters : List Filter} (first : Single part filter)
    (rest : List.Forall₂ Single parts filters) :
    Disjoined (Word.joined .or (part :: parts)) (filter :: filters) := by
  induction rest generalizing part filter with
  | nil =>
    rw [Word.joinedOne]
    exact Disjoined.one (Conjoined.one first)
  | cons next later ih =>
    rw [Word.joinedMore]
    exact Disjoined.more (Conjoined.one first) (ih next)

theorem grouped (junction : Junction) {parts : List (List Word)} {filters : List Filter}
    (singles : List.Forall₂ Single parts filters) (some : filters ≠ []) :
    Single (Word.grouped junction parts) (junction.group filters) := by
  cases singles with
  | nil => exact absurd rfl some
  | cons first rest =>
    cases rest with
    | nil =>
      rw [Word.grouped, if_neg (by simp), Word.joinedOne]
      exact first
    | cons next later =>
      cases junction with
      | and => exact Single.enclosed (Disjoined.one (conjoined first (.cons next later)))
      | or => exact Single.enclosed (disjoined first (.cons next later))

end Single

mutual

theorem Filter.single : ∀ filter : Filter, filter.isEmpty = false →
    Single filter.words filter.normal
  | .and children, written =>
      Single.grouped .and (Filter.singles children) (Filter.normalsNonempty written)
  | .or children, written =>
      Single.grouped .or (Filter.singles children) (Filter.normalsNonempty written)
  | .not children, written => by
      have some : ¬Filter.allEmpty children = true := by
        rw [Filter.isEmpty] at written
        simp [written]
      rw [Filter.words, if_neg some]
      exact Single.negated
        (Single.grouped .and (Filter.singles children) (Filter.normalsNonempty written))
  | .compare .., _ => Single.leaf _
  | .null .., _ => Single.leaf _
  | .among .., _ => Single.leaf _
  | .like .., _ => Single.leaf _
  | .fragment .., _ => Single.leaf _
termination_by structural filter => filter

theorem Filter.singles : ∀ children : List Filter,
    List.Forall₂ Single (Filter.wordParts children) (Filter.normals children)
  | [] => .nil
  | child :: rest => by
      rw [Filter.wordParts, Filter.normals]
      cases empty : child.isEmpty with
      | true => exact Filter.singles rest
      | false => exact .cons (Filter.single child empty) (Filter.singles rest)
termination_by structural children => children

end

theorem Filter.reads {filter : Filter} (written : filter.isEmpty = false) :
    Reads filter.words filter.normal :=
  ⟨_, Disjoined.one (Conjoined.one (filter.single written)), rfl⟩

structure Filter.ReadBack (config : Config) (draft : Draft) (filter : Filter) : Prop where
  text : filter.Worded config draft
  reads : Reads filter.words filter.normal
  only : ∀ other, Reads filter.words other → other = filter.normal
  found : Reader.read filter.words = some filter.normal
  normal : filter.normal.isNormal = true
  same : draft.writeAll config filter.normal.pieces = draft.writeAll config filter.pieces

theorem writtenFilterReads (config : Config) (history : List (Rules × String))
    (statement : Statement) (filter : Filter) (written : filter.isEmpty = false) :
    filter.ReadBack config ⟨statement, .after history⟩ := by
  have reads := Filter.reads written
  exact {
    text := filter.worded (Cache.afterSound history) config
    reads := reads
    only := fun _ => reads.unique
    found := reads.read
    normal := filter.normalNormal written
    same := by rw [Filter.normalPieces] }

namespace Filter

def adult : Filter := .fragment "age > ?" [.int 17]

def named : Filter := .like "name" (.string "x%") false

def unset : Filter := .null "left" false

def layered : Filter :=
  .or [.and [.or [], adult, .or [unset]], .not [.and [], .or [named, .and [unset, .not []]]]]

def flattened : Filter := .or [.and [adult, unset], .not [.or [named, unset]]]

end Filter

theorem layeredFilterReads :
    let draft : Draft := ⟨⟨"DELETE FROM [user] WHERE score<@p1 AND ", [.int 3]⟩, .empty⟩
    Filter.layered.isEmpty = false ∧
    Reader.read Filter.layered.words = some .flattened ∧
    Draft.writeAll {} draft Filter.flattened.pieces =
      Draft.writeAll {} draft Filter.layered.pieces ∧
    (Draft.writeAll {} draft Filter.layered.pieces).statement =
      ⟨"DELETE FROM [user] WHERE score<@p1 AND " ++
        "((age > ? AND [left] IS NULL) OR NOT ([name] LIKE @p3 OR [left] IS NULL))",
        [.int 3, .int 17, .string "x%"]⟩ := by
  intro draft
  have written : Filter.layered.isEmpty = false := rfl
  have back := writtenFilterReads {} [] draft.statement .layered written
  exact ⟨written, back.found, back.same, by cbv⟩

end Sqlwright
