import Sqlwright.Proofs.Query.Word

/-! The precedence with which conditions are read: a negation binds tighter than AND, and AND
tighter than OR. The reader goes over the words once and keeps what stands open outside the
parentheses that it is in; what it comes to is the only reading. -/
namespace Sqlwright

mutual

inductive Single : List Word → Filter → Prop where
  | leaf (leaf : Leaf) : Single [.leaf leaf] leaf.filter
  | negated {words filter} (inner : Single words filter) :
      Single (.negates :: words) (.not [filter])
  | enclosed {words filters} (inner : Disjoined words filters) :
      Single (Word.enclosed words) (Junction.or.group filters)

inductive Conjoined : List Word → List Filter → Prop where
  | one {words filter} (single : Single words filter) : Conjoined words [filter]
  | more {words others filter filters} (first : Single words filter)
      (rest : Conjoined others filters) :
      Conjoined (words ++ .joins .and :: others) (filter :: filters)

inductive Disjoined : List Word → List Filter → Prop where
  | one {words filters} (conjoined : Conjoined words filters) :
      Disjoined words [Junction.and.group filters]
  | more {words others filters alternatives} (first : Conjoined words filters)
      (rest : Disjoined others alternatives) :
      Disjoined (words ++ .joins .or :: others) (Junction.and.group filters :: alternatives)

end

def Reads (words : List Word) (filter : Filter) : Prop :=
  ∃ filters, Disjoined words filters ∧ Junction.or.group filters = filter

structure Bracket where
  disjuncts : List Filter
  conjuncts : List Filter

namespace Bracket

def bottom : Bracket := ⟨[], []⟩

def conjoin (bracket : Bracket) (operand : Filter) : Bracket :=
  { bracket with conjuncts := bracket.conjuncts ++ [operand] }

def disjoin (bracket : Bracket) (operand : Filter) : Bracket :=
  ⟨bracket.disjuncts ++ [Junction.and.group (bracket.conjuncts ++ [operand])], []⟩

def whole (bracket : Bracket) (operand : Filter) : Filter :=
  Junction.or.group (bracket.disjoin operand).disjuncts

end Bracket

def Filter.negated (filter : Filter) : Nat → Filter
  | 0 => filter
  | count + 1 => (Filter.not [filter]).negated count

inductive Reader where
  | expects (negations : Nat) (bracket : Bracket) (outer : List (Nat × Bracket))
  | holds (operand : Filter) (bracket : Bracket) (outer : List (Nat × Bracket))

namespace Reader

def step : Reader → Word → Option Reader
  | .expects negations bracket outer, .leaf l =>
      some (.holds (l.filter.negated negations) bracket outer)
  | .expects negations bracket outer, .negates => some (.expects (negations + 1) bracket outer)
  | .expects negations bracket outer, .opens =>
      some (.expects 0 .bottom ((negations, bracket) :: outer))
  | .holds operand bracket outer, .joins .and => some (.expects 0 (bracket.conjoin operand) outer)
  | .holds operand bracket outer, .joins .or => some (.expects 0 (bracket.disjoin operand) outer)
  | .holds operand bracket ((negations, above) :: outer), .closes =>
      some (.holds ((bracket.whole operand).negated negations) above outer)
  | _, _ => none

def run (reader : Reader) (words : List Word) : Option Reader := words.foldlM step reader

def result? : Reader → Option Filter
  | .holds operand bracket [] => some (bracket.whole operand)
  | _ => none

def read (words : List Word) : Option Filter :=
  ((expects 0 .bottom []).run words).bind result?

theorem runAppend (reader : Reader) (first second : List Word) :
    reader.run (first ++ second) = (reader.run first).bind (run · second) :=
  List.foldlM_append

theorem runCons (reader : Reader) (word : Word) (rest : List Word) :
    reader.run (word :: rest) = (reader.step word).bind (run · rest) :=
  List.foldlM_cons

end Reader

/- An operand is read in the same way whatever stands around it. The last operand of a list is
still held when the list ends, since it may be the first of what binds tighter. -/
mutual

theorem Single.run : ∀ {words filter}, Single words filter → ∀ negations bracket outer,
    (Reader.expects negations bracket outer).run words =
      some (.holds (filter.negated negations) bracket outer)
  | _, _, .leaf leaf, negations, bracket, outer => rfl
  | _, _, .negated inner, negations, bracket, outer => by
      rw [Reader.runCons]
      exact Single.run inner (negations + 1) bracket outer
  | _, _, .enclosed inner, negations, bracket, outer => by
      obtain ⟨done, conjuncts, last, same, reached⟩ := Disjoined.run inner
      rw [Word.enclosed, Reader.runAppend, Reader.runCons]
      show (Reader.run (.expects 0 .bottom ((negations, bracket) :: outer)) _).bind _ = _
      rw [Bracket.bottom, reached, same]
      rfl
termination_by structural _ _ single => single

theorem Conjoined.run : ∀ {words filters}, Conjoined words filters →
    ∃ done last, filters = done ++ [last] ∧ ∀ bracket outer,
      (Reader.expects 0 bracket outer).run words =
        some (.holds last { bracket with conjuncts := bracket.conjuncts ++ done } outer)
  | _, _, .one single => ⟨[], _, rfl, fun bracket outer => by
      rw [Single.run single, List.append_nil]
      rfl⟩
  | _, _, @Conjoined.more _ _ filter _ first rest => by
      obtain ⟨done, last, same, reached⟩ := Conjoined.run rest
      refine ⟨filter :: done, last, by rw [same]; rfl, fun bracket outer => ?_⟩
      rw [Reader.runAppend, Single.run first]
      show (Reader.expects 0 (bracket.conjoin filter) outer).run _ = _
      rw [reached, Bracket.conjoin, List.append_assoc]
      rfl
termination_by structural _ _ conjoined => conjoined

theorem Disjoined.run : ∀ {words filters}, Disjoined words filters →
    ∃ done conjuncts last, filters = done ++ [Junction.and.group (conjuncts ++ [last])] ∧
      ∀ disjuncts outer, (Reader.expects 0 ⟨disjuncts, []⟩ outer).run words =
        some (.holds last ⟨disjuncts ++ done, conjuncts⟩ outer)
  | _, _, .one conjoined => by
      obtain ⟨conjuncts, last, same, reached⟩ := Conjoined.run conjoined
      refine ⟨[], conjuncts, last, by rw [same]; rfl, fun disjuncts outer => ?_⟩
      rw [reached, List.append_nil]
      rfl
  | _, _, @Disjoined.more _ _ filters _ first rest => by
      obtain ⟨conjuncts, operand, conjoined, before⟩ := Conjoined.run first
      obtain ⟨done, later, last, same, after⟩ := Disjoined.run rest
      refine ⟨Junction.and.group filters :: done, later, last, by rw [same]; rfl,
        fun disjuncts outer => ?_⟩
      rw [Reader.runAppend, before]
      show (Reader.expects 0 ⟨disjuncts ++ [Junction.and.group (conjuncts ++ [operand])], []⟩
        outer).run _ = _
      rw [after, ← conjoined, List.append_assoc]
      rfl
termination_by structural _ _ disjoined => disjoined

end

theorem Reads.read {words : List Word} {filter : Filter} (reads : Reads words filter) :
    Reader.read words = some filter := by
  obtain ⟨filters, disjoined, whole⟩ := reads
  obtain ⟨done, conjuncts, last, same, reached⟩ := disjoined.run
  rw [Reader.read, Bracket.bottom, reached, ← whole, same]
  rfl

theorem Reads.unique {words : List Word} {filter other : Filter} (reads : Reads words filter)
    (again : Reads words other) : other = filter :=
  Option.some.inj (again.read.symm.trans reads.read)

example (a b c : Leaf) :
    Reader.read [.negates, .leaf a, .joins .and, .leaf b, .joins .or, .leaf c] =
      some (.or [.and [.not [a.filter], b.filter], c.filter]) := rfl

end Sqlwright
