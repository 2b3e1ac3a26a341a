import Sqlwright.Proofs.Identifier.Cache
import Sqlwright.Proofs.Identifier.Plain
import Sqlwright.Proofs.Text.Leftmost

/-! Fields with several aliases. A field is cut at its leftmost alias word, and what stands behind
the word is cut again, unless it starts with the mark. The escaped field is the escaped parts in the
same order: nothing of the nesting of the cuts is left, and how the words were written plays no
part. -/
namespace Sqlwright.Identifier

namespace Rules

variable {rules : Rules}

def Quotes (rules : Rules) : Prop := rules.opening ≠ [] ∨ rules.closing ≠ []

instance (rules : Rules) : Decidable rules.Quotes := inferInstanceAs (Decidable (_ ∨ _))

theorem leavesUnquoted (unquoted : ¬ rules.Quotes) (field : List Char) :
    rules.leaves field = true := by
  simp only [Quotes, not_or, Classical.not_not] at unquoted
  simp [leaves, unquoted]

theorem leavesQuoted (quotes : rules.Quotes) {field : List Char} (long : 1 < field.length) :
    rules.leaves field = false := by
  have filled : field ≠ [] := by rintro rfl; simp at long
  have unstarred : field ≠ ['*'] := by rintro rfl; simp at long
  have quoted : (rules.opening.isEmpty && rules.closing.isEmpty) = false := by
    simpa [Quotes, ← Classical.not_and_iff_not_or_not] using quotes
  simp [leaves, filled, unstarred, quoted]

theorem escapeUnquoted (unquoted : ¬ rules.Quotes) (field : List Char) :
    rules.escapeChars field = field := by
  rw [escapeChars, if_pos (leavesUnquoted unquoted field)]

theorem escapeMarked (quotes : rules.Quotes) {text : List Char} (some : text ≠ []) :
    rules.escapeChars (rules.bypass :: text) = text := by
  have long : 1 < (rules.bypass :: text).length := by simpa [List.length_pos_iff] using some
  have form : Form.of rules.bypass (rules.bypass :: text) = .verbatim text := by
    simp [Form.of, Text.after?]
  rw [escapeChars, if_neg (by simp [leavesQuoted quotes long]), form]

theorem escapeAliased (quotes : rules.Quotes) {field source label : List Char}
    (unmarked : field.head? ≠ some rules.bypass)
    (cut : aliasCut? field = some (source, label)) :
    rules.escapeChars field = rules.escapeChars source ++ asWord ++ rules.escapeChars label := by
  have long : 1 < field.length := by
    have := aliasCutShorter cut
    omega
  have form : Form.of rules.bypass field = .aliased source label := by
    simp [Form.of, afterMarkNone unmarked, cut]
  rw [escapeChars.eq_def, if_neg (by simp [leavesQuoted quotes long]), form]

end Rules

def IsAlias (word : List Char) : Prop :=
  ∃ a s, word = [' ', a, s, ' '] ∧ (a = 'a' ∨ a = 'A') ∧ (s = 's' ∨ s = 'S')

theorem afterAsSome {text label : List Char} :
    afterAs? text = some label ↔ ∃ word, IsAlias word ∧ text = word ++ label := by
  constructor
  · intro found
    obtain ⟨a, s, join, letters⟩ := afterAsJoin found
    exact ⟨[' ', a, s, ' '], ⟨a, s, rfl, letters⟩, join⟩
  · rintro ⟨_, ⟨a, s, rfl, letters⟩, rfl⟩
    simp [afterAs?, letters]

theorem aliasedIff {field : List Char} :
    Aliased field ↔ ∃ before word after, IsAlias word ∧ field = before ++ word ++ after := by
  constructor
  · rintro ⟨before, a, s, after, join, letters⟩
    exact ⟨before, [' ', a, s, ' '], after, ⟨a, s, rfl, letters⟩, by simp [join]⟩
  · rintro ⟨before, _, after, ⟨a, s, rfl, letters⟩, join⟩
    exact ⟨before, a, s, after, by simp [join], letters⟩

structure Leftmost (source word label : List Char) : Prop where
  isAlias : IsAlias word
  first : ∀ before other after, IsAlias other →
    source ++ word ++ label = before ++ other ++ after → source.length ≤ before.length

theorem aliasCutIff {field source label : List Char} :
    aliasCut? field = some (source, label) ↔
      ∃ word, field = source ++ word ++ label ∧ Leftmost source word label := by
  rw [aliasCut?, Text.cutAtIff]
  constructor
  · rintro ⟨⟨_, rfl, found⟩, first⟩
    obtain ⟨word, isAlias, rfl⟩ := afterAsSome.mp found
    refine ⟨word, by rw [List.append_assoc], isAlias, fun before other after another join => ?_⟩
    refine first before (other ++ after) (by rw [← List.append_assoc, join, List.append_assoc]) ?_
    rw [afterAsSome.mpr ⟨other, another, rfl⟩]
    rfl
  · rintro ⟨word, rfl, isAlias, first⟩
    refine ⟨⟨word ++ label, by rw [List.append_assoc], afterAsSome.mpr ⟨word, isAlias, rfl⟩⟩, ?_⟩
    intro before marked join found
    obtain ⟨after, here⟩ := Option.isSome_iff_exists.mp found
    obtain ⟨other, another, rfl⟩ := afterAsSome.mp here
    exact first before other after another (by rw [join, List.append_assoc])

theorem IsAlias.blank {word : List Char} (isAlias : IsAlias word) : ∃ tail, word = ' ' :: tail := by
  obtain ⟨a, s, rfl, -⟩ := isAlias
  exact ⟨_, rfl⟩

/-- Two alias words share a blank at most, so the words that could begin earlier are in the source
with one blank behind it. -/
theorem leftmostIff {source word label : List Char} :
    Leftmost source word label ↔ IsAlias word ∧ ¬ Aliased (source ++ [' ']) := by
  constructor
  · rintro ⟨isAlias, first⟩
    refine ⟨isAlias, fun earlier => ?_⟩
    obtain ⟨before, other, after, another, join⟩ := aliasedIff.mp earlier
    obtain ⟨tail, rfl⟩ := isAlias.blank
    have order := first before other (after ++ tail ++ label) another (by
      calc source ++ ' ' :: tail ++ label = source ++ [' '] ++ tail ++ label := by simp
        _ = before ++ other ++ (after ++ tail ++ label) := by rw [join]; simp)
    obtain ⟨a, s, rfl, -⟩ := another
    have long := congrArg List.length join
    simp only [List.length_append, List.length_cons, List.length_nil] at long
    omega
  · rintro ⟨isAlias, absent⟩
    refine ⟨isAlias, fun before other after another join => Nat.le_of_not_lt fun shorter => ?_⟩
    obtain ⟨tail, rfl⟩ := isAlias.blank
    obtain ⟨a, s, rfl, letters⟩ := another
    have blank : ([' ', a, s, ' '] ++ after)[source.length - before.length]? = some ' ' := by
      rw [← List.getElem?_append_right (Nat.le_of_lt shorter), ← List.append_assoc, ← join]
      simp
    have places : source.length = before.length + 1 ∨ source.length = before.length + 2 ∨
        before.length + 3 ≤ source.length := by omega
    rcases places with second | third | within
    · rw [second, Nat.add_sub_cancel_left] at blank
      rcases letters.1 with rfl | rfl <;> simp at blank
    · rw [third, Nat.add_sub_cancel_left] at blank
      rcases letters.2 with rfl | rfl <;> simp at blank
    · have inside : before ++ [' ', a, s, ' '] <+: source ++ [' '] := by
        refine List.prefix_of_prefix_length_le ⟨after, join.symm⟩ ⟨tail ++ label, by simp⟩ ?_
        simp only [List.length_append, List.length_cons, List.length_nil]
        omega
      obtain ⟨rest, same⟩ := inside
      exact absent (aliasedIff.mpr ⟨before, _, rest, ⟨a, s, rfl, letters⟩, same.symm⟩)

instance (word : List Char) : Decidable (IsAlias word) :=
  decidable_of_iff (afterAs? word = some []) (by simp [afterAsSome])

instance (source word label : List Char) : Decidable (Leftmost source word label) :=
  decidable_of_iff' _ leftmostIff

inductive Splits (bypass : Char) : List Char → List (List Char) → List (List Char) → Prop
  | whole {field} (kept : field.head? = some bypass ∨ ¬ Aliased field) :
      Splits bypass field [field] []
  | cut {field source word label parts words} (join : field = source ++ word ++ label)
      (unmarked : field.head? ≠ some bypass) (leftmost : Leftmost source word label)
      (rest : Splits bypass label parts words) :
      Splits bypass field (source :: parts) (word :: words)

def joined : List (List Char) → List (List Char) → List Char
  | part :: parts, word :: words => part ++ word ++ joined parts words
  | parts, _ => parts.flatten

theorem Leftmost.aliased {source word label : List Char} (leftmost : Leftmost source word label) :
    Aliased (source ++ word ++ label) :=
  aliasedIff.mpr ⟨source, word, label, leftmost.isAlias, rfl⟩

theorem Leftmost.unaliased {source word label : List Char}
    (leftmost : Leftmost source word label) : ¬ Aliased source := by
  intro earlier
  obtain ⟨before, other, after, isAlias, join⟩ := aliasedIff.mp earlier
  refine (leftmostIff.mp leftmost).2 (aliasedIff.mpr ⟨before, other, after ++ [' '], isAlias, ?_⟩)
  rw [join, List.append_assoc]

namespace Splits

variable {bypass : Char} {field : List Char} {parts words : List (List Char)}

theorem exist (bypass : Char) (field : List Char) :
    ∃ parts words, Splits bypass field parts words := by
  by_cases marked : field.head? = some bypass
  · exact ⟨_, _, .whole (.inl marked)⟩
  · cases cut : aliasCut? field with
    | none => exact ⟨_, _, .whole (.inr (aliasCutNone.mp cut))⟩
    | some ends =>
      obtain ⟨source, label⟩ := ends
      have shorter := aliasCutShorter cut
      obtain ⟨word, join, leftmost⟩ := aliasCutIff.mp cut
      obtain ⟨parts, words, rest⟩ := exist bypass label
      exact ⟨_, _, .cut join marked leftmost rest⟩
termination_by field.length
decreasing_by omega

theorem unique (first : Splits bypass field parts words) {others more : List (List Char)}
    (second : Splits bypass field others more) : others = parts ∧ more = words := by
  induction first generalizing others more with
  | whole kept =>
    cases second with
    | whole => exact ⟨rfl, rfl⟩
    | cut join unmarked leftmost =>
      rw [join] at kept unmarked
      exact absurd leftmost.aliased (kept.resolve_left unmarked)
  | cut join unmarked leftmost rest ih =>
    cases second with
    | whole kept =>
      rw [join] at kept unmarked
      exact absurd leftmost.aliased (kept.resolve_left unmarked)
    | cut again _ other behind =>
      have same := (aliasCutIff.mpr ⟨_, join, leftmost⟩).symm.trans
        (aliasCutIff.mpr ⟨_, again, other⟩)
      obtain ⟨rfl, rfl⟩ := Prod.mk.inj (Option.some.inj same)
      obtain ⟨rfl, rfl⟩ := ih behind
      obtain rfl := List.append_cancel_left (List.append_cancel_right (join.symm.trans again))
      exact ⟨rfl, rfl⟩

theorem joins (splits : Splits bypass field parts words) : joined parts words = field := by
  induction splits with
  | whole => simp [joined]
  | cut join _ _ _ ih => rw [joined, ih, join]

theorem aliases (splits : Splits bypass field parts words) : ∀ word ∈ words, IsAlias word := by
  induction splits with
  | whole => simp
  | cut _ _ leftmost _ ih => exact List.forall_mem_cons.mpr ⟨leftmost.isAlias, ih⟩

theorem filled (splits : Splits bypass field parts words) : parts ≠ [] := by
  cases splits <;> exact List.cons_ne_nil _ _

theorem partsUnaliased (splits : Splits bypass field parts words) :
    (∀ part ∈ parts.dropLast, ¬ Aliased part) ∧
      ∀ last ∈ parts.getLast?, Aliased last → last.head? = some bypass := by
  induction splits with
  | whole kept => simpa using fun aliased => kept.resolve_right (not_not_intro aliased)
  | cut _ _ leftmost rest ih =>
    rw [List.dropLast_cons_of_ne_nil rest.filled, List.getLast?_cons_of_ne_nil rest.filled]
    exact ⟨List.forall_mem_cons.mpr ⟨leftmost.unaliased, ih.1⟩, ih.2⟩

theorem respelled (splits : Splits bypass field parts words) {others : List (List Char)}
    (count : others.length = words.length) (aliases : ∀ word ∈ others, IsAlias word) :
    Splits bypass (joined parts others) parts others := by
  induction splits generalizing others with
  | @whole field kept =>
    obtain rfl := List.eq_nil_of_length_eq_zero count
    simpa [joined] using Splits.whole kept
  | @cut field source word label parts words join unmarked leftmost rest ih =>
    obtain ⟨other, more, rfl⟩ := List.exists_cons_of_length_eq_add_one count
    obtain ⟨isAlias, later⟩ := List.forall_mem_cons.mp aliases
    have heads : ∀ {word label}, IsAlias word →
        (source ++ word ++ label).head? = (source ++ [' ']).head? := by
      intro word label isAlias
      obtain ⟨tail, rfl⟩ := isAlias.blank
      cases source <;> rfl
    rw [joined]
    refine .cut rfl ?_ (leftmostIff.mpr ⟨isAlias, (leftmostIff.mp leftmost).2⟩)
      (ih (Nat.succ.inj count) later)
    rwa [heads isAlias, ← heads leftmost.isAlias, ← join]

theorem escaped {rules : Rules} (quotes : rules.Quotes)
    (splits : Splits rules.bypass field parts words) :
    rules.escapeChars field = Rules.asWord.intercalate (parts.map rules.escapeChars) := by
  induction splits with
  | whole => rw [List.map_singleton, List.intercalate_singleton]
  | cut join unmarked leftmost rest ih =>
    obtain ⟨next, later, rfl⟩ := List.exists_cons_of_ne_nil rest.filled
    rw [rules.escapeAliased quotes unmarked (aliasCutIff.mpr ⟨_, join, leftmost⟩), ih,
      List.map_cons, List.map_cons, List.map_cons, List.intercalate_cons_cons]

end Splits

theorem aliasesSplit (earlier later : List (Rules × String)) {rules : Rules}
    (quotes : rules.Quotes) (field : String) :
    let escaped := fun text => ((Cache.after later).escape rules (String.ofList text)).1
    ∃ parts words, Splits rules.bypass field.toList parts words ∧
      (∀ others more, Splits rules.bypass field.toList others more →
        others = parts ∧ more = words) ∧
      joined parts words = field.toList ∧ (∀ word ∈ words, IsAlias word) ∧
      ((Cache.after earlier).escape rules field).1 =
        " AS ".intercalate (parts.map escaped) ∧
      (∀ part ∈ parts.dropLast, ¬ Aliased part) ∧
      (∀ last ∈ parts.getLast?, Aliased last → last.head? = some rules.bypass) ∧
      (∀ others : List (List Char), others.length = words.length →
        (∀ word ∈ others, IsAlias word) →
        Splits rules.bypass (joined parts others) parts others ∧
        escaped (joined parts others) = ((Cache.after earlier).escape rules field).1) ∧
      escaped [] = "" := by
  intro escaped
  have alone : ∀ text, escaped text = String.ofList (rules.escapeChars text) := by
    intro text
    show ((Cache.after later).escape rules (String.ofList text)).1 = _
    rw [Cache.escapeAfter, Rules.escape, String.toList_ofList]
  have flat : ∀ {text parts words}, Splits rules.bypass text parts words →
      escaped text = " AS ".intercalate (parts.map escaped) := by
    intro text parts words splits
    have chars : (parts.map escaped).map String.toList = parts.map rules.escapeChars := by
      rw [List.map_map]
      exact List.map_congr_left fun part _ => by
        rw [Function.comp_apply, alone, String.toList_ofList]
    rw [← String.toList_inj, String.toList_intercalate, chars, alone, String.toList_ofList]
    exact splits.escaped quotes
  obtain ⟨parts, words, splits⟩ := Splits.exist rules.bypass field.toList
  have whole : ((Cache.after earlier).escape rules field).1 =
      " AS ".intercalate (parts.map escaped) := by
    rw [Cache.escapeAfter, Rules.escape, ← alone]
    exact flat splits
  refine ⟨parts, words, splits, fun _ _ again => splits.unique again, splits.joins,
    splits.aliases, whole, splits.partsUnaliased.1, splits.partsUnaliased.2,
    fun others count aliases => ?_, ?_⟩
  · have respelled := splits.respelled count aliases
    exact ⟨respelled, (flat respelled).trans whole.symm⟩
  · rw [alone, Rules.escapeChars, if_pos (by rfl)]

theorem layeredAliasesSplit :
    let rules := Rules.ofConfig {}
    let field := " as as aS user.name As ^n as m"
    let parts := ["".toList, "as".toList, "user.name".toList, "^n as m".toList]
    let words := [" as ".toList, " aS ".toList, " As ".toList]
    let others := [" AS ".toList, " as ".toList, " as ".toList]
    rules.Quotes ∧ Splits '^' field.toList parts words ∧
    (Cache.empty.escape rules field).1 = " AS [as] AS [user].[name] AS n as m" ∧
    String.ofList (joined parts others) = " AS as as user.name as ^n as m" ∧
    (Cache.empty.escape rules " AS as as user.name as ^n as m").1 =
      " AS [as] AS [user].[name] AS n as m" := by
  intro rules field parts words others
  have quotes : rules.Quotes := by decide
  have raw : Splits '^' "^n as m".toList ["^n as m".toList] [] := .whole (.inl (by decide))
  have name : Splits '^' "user.name As ^n as m".toList ["user.name".toList, "^n as m".toList]
      [" As ".toList] := .cut (by decide) (by decide) (by decide) raw
  have word : Splits '^' "as aS user.name As ^n as m".toList
      ["as".toList, "user.name".toList, "^n as m".toList] [" aS ".toList, " As ".toList] :=
    .cut (by decide) (by decide) (by decide) name
  have cut : Splits '^' field.toList parts words :=
    .cut (by decide) (by decide) (by decide) word
  obtain ⟨found, between, _, unique, _, _, whole, _, _, respelled, _⟩ :=
    aliasesSplit [] [] quotes field
  obtain ⟨rfl, rfl⟩ := unique parts words cut
  have text : (Cache.empty.escape rules field).1 = " AS [as] AS [user].[name] AS n as m" := by
    exact whole.trans (by decide +kernel)
  have again : String.ofList (joined parts others) = " AS as as user.name as ^n as m" := by decide
  refine ⟨quotes, cut, text, again, ?_⟩
  rw [← again, ← text]
  exact (respelled others rfl (by decide)).2

end Sqlwright.Identifier
