import Sqlwright.Proofs.Query.Meaning
import Sqlwright.Proofs.Query.Truth

/-! Conditions with raw texts in them. Whoever reads the written condition cuts a raw text into
words of its own and reads them among the words around it. No parentheses are written for it, so
next to an AND a text keeps together as long as no OR stands outside its own parentheses. -/
namespace Sqlwright

def Leaf.predicate (text : String) : Leaf := ⟨.fragment text [], rfl⟩

variable (lex : String → List Word)

def Word.cut : Word → List Word
  | .leaf ⟨.fragment text _, _⟩ => lex text
  | word => [word]

def Word.cutAll (words : List Word) : List Word := words.flatMap (cut lex)

def Filter.rawWords (filter : Filter) : List Word := Word.cutAll lex filter.words

/-- The words are read as the condition, and no OR stands outside parentheses. -/
def Conjunctive (words : List Word) (condition : Filter) : Prop :=
  ∃ filters, Conjoined words filters ∧ Junction.and.group filters = condition

def Filter.MeetOf (both first second : Filter) : Prop :=
  ∀ {α : Type} [Lattice α] [BoundedOrder α] (truth : Truth α),
    both.value truth = first.value truth ⊓ second.value truth

def ReadsBoth (words : List Word) (first second : Filter) : Prop :=
  ∃ both, Reads words both ∧ Reader.read words = some both ∧ both.MeetOf first second

theorem ReadsBoth.meets {words : List Word} {first second both : Filter}
    (reads : ReadsBoth words first second) (read : Reader.read words = some both) :
    both.MeetOf first second := by
  obtain ⟨found, _, same, meets⟩ := reads
  cases Option.some.inj (same.symm.trans read)
  exact meets

namespace Word

theorem cutAppend (first second : List Word) :
    cutAll lex (first ++ second) = cutAll lex first ++ cutAll lex second :=
  List.flatMap_append

theorem cutJoined (junction : Junction) (parts : List (List Word)) :
    cutAll lex (joined junction parts) = joined junction (parts.map (cutAll lex)) := by
  induction parts with
  | nil => rfl
  | cons part rest ih =>
    cases rest with
    | nil => rw [joinedOne, List.map_singleton, joinedOne]
    | cons next later =>
      rw [joinedMore, cutAppend, List.map_cons, List.map_cons, joinedMore, ← List.map_cons, ← ih]
      rfl

theorem cutEnclosed (body : List Word) :
    cutAll lex (enclosed body) = enclosed (cutAll lex body) := by
  simp [enclosed, cutAll, cut]

theorem cutGrouped (junction : Junction) (parts : List (List Word)) :
    cutAll lex (grouped junction parts) = grouped junction (parts.map (cutAll lex)) := by
  unfold grouped
  rw [List.length_map, ← cutJoined]
  split
  · exact cutEnclosed lex _
  · rfl

theorem joinedLast (junction : Junction) {parts : List (List Word)} (some : parts ≠ [])
    (last : List Word) :
    joined junction (parts ++ [last]) = joined junction parts ++ .joins junction :: last := by
  induction parts with
  | nil => exact absurd rfl some
  | cons part rest ih =>
    cases rest with
    | nil => rw [List.singleton_append, joinedMore, joinedOne, joinedOne]
    | cons next later =>
      rw [List.cons_append, List.cons_append, joinedMore, ← List.cons_append,
        ih (List.cons_ne_nil next later), joinedMore, List.append_assoc, List.cons_append]

end Word

namespace Conjoined

theorem append {first second : List Word} {filters others : List Filter}
    (one : Conjoined first filters) (two : Conjoined second others) :
    Conjoined (first ++ .joins .and :: second) (filters ++ others) := by
  cases one with
  | one single => exact Conjoined.more single two
  | more single rest =>
    rw [List.append_assoc, List.cons_append, List.cons_append]
    exact Conjoined.more single (append rest two)
termination_by first.length

theorem enclosed {words : List Word} {filters : List Filter} (inner : Conjoined words filters) :
    Single (Word.enclosed words) (Junction.and.group filters) :=
  Single.enclosed (Disjoined.one inner)

theorem negated {words : List Word} {filters : List Filter} (inner : Conjoined words filters) :
    ∃ others, Conjoined (.negates :: words) others := by
  cases inner with
  | one single => exact ⟨_, Conjoined.one (Single.negated single)⟩
  | more first rest => exact ⟨_, Conjoined.more (Single.negated first) rest⟩

end Conjoined

namespace Conjunctive

theorem reads {words : List Word} {condition : Filter} (whole : Conjunctive words condition) :
    Reads words condition := by
  obtain ⟨filters, conjoined, same⟩ := whole
  exact ⟨_, Disjoined.one conjoined, same⟩

theorem leaf (leaf : Leaf) : Conjunctive [.leaf leaf] leaf.filter :=
  ⟨_, Conjoined.one (Single.leaf leaf), rfl⟩

theorem meet {first second : List Word} {one two : Filter} (left : Conjunctive first one)
    (right : Conjunctive second two) :
    ReadsBoth (first ++ .joins .and :: second) one two ∧
      ReadsBoth (Word.enclosed (first ++ .joins .and :: second)) one two := by
  obtain ⟨filters, conjoined, rfl⟩ := left
  obtain ⟨others, next, rfl⟩ := right
  have together : Conjoined (first ++ .joins .and :: second) (filters ++ others) :=
    conjoined.append next
  have meets : (Junction.and.group (filters ++ others)).MeetOf (Junction.and.group filters)
      (Junction.and.group others) := by
    intro α _ _ truth
    rw [Filter.groupValue, Filter.groupValue, Filter.groupValue, Filter.valuesAppend,
      Junction.valueAppend]
    rfl
  have plain : Reads _ _ := reads ⟨_, together, rfl⟩
  have inside : Reads _ _ := reads ⟨_, Conjoined.one together.enclosed, rfl⟩
  exact ⟨⟨_, plain, plain.read, meets⟩, ⟨_, inside, inside.read, meets⟩⟩

theorem grouped {parts : List (List Word)} {condition : Filter}
    (whole : Conjunctive (Word.joined .and parts) condition) :
    Conjunctive (Word.grouped .and parts) condition := by
  unfold Word.grouped
  split
  · obtain ⟨filters, conjoined, rfl⟩ := whole
    exact ⟨_, Conjoined.one conjoined.enclosed, rfl⟩
  · exact whole

theorem joined {parts : List (List Word)} (some : parts ≠ [])
    (wholes : ∀ part ∈ parts, ∃ condition, Conjunctive part condition) :
    ∃ condition, Conjunctive (Word.joined .and parts) condition := by
  induction parts with
  | nil => exact absurd rfl some
  | cons part rest ih =>
    obtain ⟨_, filters, conjoined, _⟩ := wholes part List.mem_cons_self
    cases rest with
    | nil => exact ⟨_, filters, by rwa [Word.joinedOne], rfl⟩
    | cons next later =>
      obtain ⟨_, others, after, _⟩ := ih (List.cons_ne_nil next later)
        fun part inside => wholes part (List.mem_cons_of_mem _ inside)
      exact ⟨_, filters ++ others, by rw [Word.joinedMore]; exact conjoined.append after, rfl⟩

theorem disjoined {parts : List (List Word)} (some : parts ≠ [])
    (wholes : ∀ part ∈ parts, ∃ condition, Conjunctive part condition) :
    ∃ filters, Disjoined (Word.joined .or parts) filters := by
  induction parts with
  | nil => exact absurd rfl some
  | cons part rest ih =>
    obtain ⟨_, filters, conjoined, _⟩ := wholes part List.mem_cons_self
    cases rest with
    | nil => exact ⟨_, by rw [Word.joinedOne]; exact Disjoined.one conjoined⟩
    | cons next later =>
      obtain ⟨others, after⟩ := ih (List.cons_ne_nil next later)
        fun part inside => wholes part (List.mem_cons_of_mem _ inside)
      exact ⟨_, by rw [Word.joinedMore]; exact Disjoined.more conjoined after⟩

theorem junction (junction : Junction) {parts : List (List Word)} (some : parts ≠ [])
    (wholes : ∀ part ∈ parts, ∃ condition, Conjunctive part condition) :
    ∃ condition, Conjunctive (Word.grouped junction parts) condition := by
  cases junction with
  | and =>
    obtain ⟨condition, whole⟩ := joined some wholes
    exact ⟨condition, whole.grouped⟩
  | or =>
    unfold Word.grouped
    split
    · obtain ⟨filters, disjoined⟩ := disjoined some wholes
      exact ⟨_, _, Conjoined.one (Single.enclosed disjoined), rfl⟩
    · rename_i few
      obtain ⟨part, rest, rfl⟩ := List.exists_cons_of_ne_nil some
      cases rest with
      | nil => simpa [Word.joinedOne] using wholes
      | cons next later => exact absurd (by simp) few

end Conjunctive

namespace Filter

def members : Filter → List Filter
  | .and children => children
  | filter => [filter]

theorem andWithMembers (filter : Filter) {other : Filter} (written : other.isEmpty = false) :
    filter.andWith other = .and (filter.members ++ [other]) := by
  unfold andWith
  rw [if_neg (by simp [written])]
  cases filter <;> rfl

theorem membersWords (filter : Filter) (written : filter.isEmpty = false) :
    filter.words = Word.grouped .and (wordParts filter.members) := by
  have alone : filter.words = Word.grouped .and (wordParts [filter]) := by
    simp [wordParts, written, Word.grouped, Word.joinedOne]
  cases filter with
  | and children => rfl
  | _ => exact alone

theorem membersEmpty (filter : Filter) : allEmpty filter.members = filter.isEmpty := by
  cases filter with
  | and children => rfl
  | _ => exact Bool.and_true _

theorem wordPartsAppend (children others : List Filter) :
    wordParts (children ++ others) = wordParts children ++ wordParts others := by
  induction children with
  | nil => rfl
  | cons child rest ih =>
    rw [List.cons_append, wordParts, wordParts, ih]
    split
    · rfl
    · rfl

theorem memWordParts {children : List Filter} {part : List Word} :
    part ∈ wordParts children ↔
      ∃ child ∈ children, child.isEmpty = false ∧ child.words = part := by
  induction children with
  | nil => simp [wordParts]
  | cons child rest ih =>
    rw [wordParts]
    cases empty : child.isEmpty with
    | true => simp [ih, empty]
    | false => simp [ih, empty, @eq_comm _ part]

theorem wordPartsNonempty {children : List Filter} (written : allEmpty children = false) :
    wordParts children ≠ [] := by
  intro none
  have singles := singles children
  rw [none] at singles
  exact normalsNonempty written (List.forall₂_nil_left_iff.mp singles)

def Joinable (filter : Filter) : Prop :=
  ∀ member ∈ filter.members, member.isEmpty = false →
    ∃ condition, Conjunctive (member.rawWords lex) condition

structure MeansBoth (config : Config) (draft : Draft) (filter first second : Filter) : Prop where
  text : filter.Worded config draft
  reads : ReadsBoth (filter.rawWords lex) first second

variable {lex}

theorem joinableParts {filter : Filter} (written : filter.isEmpty = false)
    (joinable : filter.Joinable lex) :
    ∃ condition, Conjunctive (Word.cutAll lex (Word.joined .and (wordParts filter.members)))
      condition := by
  rw [Word.cutJoined]
  apply Conjunctive.joined
  · have some : wordParts filter.members ≠ [] :=
      wordPartsNonempty (by rw [membersEmpty, written])
    simpa using some
  · intro part inside
    obtain ⟨words, member, rfl⟩ := List.mem_map.mp inside
    obtain ⟨child, among, here, rfl⟩ := memWordParts.mp member
    exact joinable child among here

theorem andWithWords {filter other : Filter} (written : filter.isEmpty = false)
    (added : other.isEmpty = false) :
    (filter.andWith other).words =
      Word.enclosed (Word.joined .and (wordParts filter.members) ++ .joins .and :: other.words) := by
  have some : wordParts filter.members ≠ [] :=
    wordPartsNonempty (by rw [membersEmpty, written])
  have last : wordParts [other] = [other.words] := by simp [wordParts, added]
  have several : 1 < (wordParts filter.members ++ [other.words]).length := by
    have := List.length_pos_iff.mpr some
    rw [List.length_append, List.length_singleton]
    omega
  rw [filter.andWithMembers added, words, wordPartsAppend, last, Word.grouped, if_pos several,
    Word.joinedLast .and some]

theorem andWithMeansBoth {draft : Draft} (sound : draft.cache.Sound) (config : Config)
    {filter other first second : Filter}
    (written : filter.isEmpty = false) (added : other.isEmpty = false)
    (reads : Reads (filter.rawWords lex) first) (joinable : filter.Joinable lex)
    (whole : Conjunctive (other.rawWords lex) second) :
    (filter.andWith other).MeansBoth lex config draft first second := by
  obtain ⟨condition, conjunctive⟩ := joinableParts written joinable
  have alone : Conjunctive (filter.rawWords lex) condition := by
    rw [Word.cutJoined] at conjunctive
    rw [rawWords, filter.membersWords written, Word.cutGrouped]
    exact conjunctive.grouped
  cases alone.reads.unique reads
  refine ⟨worded sound config _, ?_⟩
  rw [rawWords, andWithWords written added, Word.cutEnclosed, Word.cutAppend]
  exact (conjunctive.meet whole).2

end Filter

variable {lex}

mutual

def Filter.rawTexts : Filter → List String
  | .and children => Filter.allRawTexts children
  | .or children => Filter.allRawTexts children
  | .not children => Filter.allRawTexts children
  | .fragment sql _ => [sql]
  | _ => []
termination_by structural filter => filter

def Filter.allRawTexts : List Filter → List String
  | [] => []
  | child :: rest => child.rawTexts ++ Filter.allRawTexts rest
termination_by structural children => children

end

mutual

theorem Filter.conjunctive : ∀ filter : Filter, filter.isEmpty = false →
    (∀ text ∈ filter.rawTexts, ∃ condition, Conjunctive (lex text) condition) →
    ∃ condition, Conjunctive (filter.rawWords lex) condition
  | .and children, written, wholes => by
      rw [Filter.rawWords, Filter.words, Word.cutGrouped]
      exact Conjunctive.junction .and (by simpa using Filter.wordPartsNonempty written)
        (Filter.conjunctives children wholes)
  | .or children, written, wholes => by
      rw [Filter.rawWords, Filter.words, Word.cutGrouped]
      exact Conjunctive.junction .or (by simpa using Filter.wordPartsNonempty written)
        (Filter.conjunctives children wholes)
  | .not children, written, wholes => by
      have some : ¬Filter.allEmpty children = true := by
        rw [Filter.isEmpty] at written
        simp [written]
      obtain ⟨_, filters, conjoined, _⟩ := Conjunctive.junction .and
        (by simpa using Filter.wordPartsNonempty written) (Filter.conjunctives children wholes)
      obtain ⟨others, negated⟩ := conjoined.negated
      rw [← Word.cutGrouped] at negated
      rw [Filter.rawWords, Filter.words, if_neg some]
      exact ⟨_, others, negated, rfl⟩
  | .compare .., _, _ => ⟨_, .leaf _⟩
  | .null .., _, _ => ⟨_, .leaf _⟩
  | .among .., _, _ => ⟨_, .leaf _⟩
  | .like .., _, _ => ⟨_, .leaf _⟩
  | .fragment sql _, _, wholes => by
      rw [Filter.rawWords, Filter.words, Word.cutAll, List.flatMap_singleton]
      exact wholes sql List.mem_cons_self
termination_by structural filter => filter

theorem Filter.conjunctives : ∀ children : List Filter,
    (∀ text ∈ Filter.allRawTexts children, ∃ condition, Conjunctive (lex text) condition) →
    ∀ part ∈ (Filter.wordParts children).map (Word.cutAll lex),
      ∃ condition, Conjunctive part condition
  | [], _, part, inside => by cases inside
  | child :: rest, wholes, part, inside => by
      have later := Filter.conjunctives rest fun text member =>
        wholes text (List.mem_append_right _ member)
      rw [Filter.wordParts] at inside
      cases empty : child.isEmpty with
      | true => exact later part (by simpa [empty] using inside)
      | false =>
        rw [empty, if_neg Bool.false_ne_true, List.map_cons] at inside
        rcases List.mem_cons.mp inside with rfl | among
        · exact Filter.conjunctive child empty fun text member =>
            wholes text (List.mem_append_left _ member)
        · exact later part among
termination_by structural children => children

end

namespace Filter

theorem memAllRawTexts {children : List Filter} {child : Filter} (member : child ∈ children)
    {text : String} (inside : text ∈ child.rawTexts) : text ∈ allRawTexts children := by
  induction children with
  | nil => cases member
  | cons first rest ih =>
    rcases List.mem_cons.mp member with rfl | later
    · exact List.mem_append_left _ inside
    · exact List.mem_append_right _ (ih later)

theorem joinable {filter : Filter}
    (wholes : ∀ text ∈ filter.rawTexts, ∃ condition, Conjunctive (lex text) condition) :
    filter.Joinable lex := by
  intro member among written
  refine member.conjunctive written fun text inside => wholes text ?_
  cases filter with
  | and children => exact memAllRawTexts among inside
  | _ => exact List.mem_singleton.mp among ▸ inside

end Filter

end Sqlwright
