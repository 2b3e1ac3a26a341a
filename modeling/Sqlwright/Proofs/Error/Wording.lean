import Mathlib.Data.List.Infix
import Sqlwright.Error.Constraint
import Sqlwright.Proofs.Text.Leftmost

/-! Messages that follow one of the wordings, and the constraint that is read from them. The quote
that opens the name is the first in the message, so the name begins there and ends at the next,
whatever stands behind it. No wording begins with another. -/
namespace Sqlwright.Constraint

namespace Wording

def message (wording : Wording) (name tail : String) : String :=
  wording.lead ++ " constraint " ++ wording.closing ++ name ++ wording.closing ++ tail

structure Opens (wording : Wording) (mark : Char) (stem words : String) : Prop where
  closing : wording.closing.toList = [mark]
  opening : wording.opening.toList = words.toList ++ [mark]
  lead : wording.lead ++ " constraint " = stem ++ words
  fresh : mark ∉ (wording.lead ++ " constraint ").toList

variable {wording : Wording} {mark : Char} {stem words : String}

theorem Opens.message (opens : wording.Opens mark stem words) (name tail : String) :
    (wording.message name tail).toList =
      stem.toList ++ words.toList ++ mark :: (name.toList ++ mark :: tail.toList) := by
  rw [Wording.message, opens.lead]
  simp [opens.closing]

theorem Opens.nameOfMessage (opens : wording.Opens mark stem words) {name : String}
    (free : mark ∉ name.toList) (tail : String) :
    wording.name (wording.message name tail).toList = name.toList := by
  have fresh : mark ∉ stem.toList ++ words.toList := by
    rw [← String.toList_append, ← opens.lead]
    exact opens.fresh
  have found := Text.cutEnding fresh (name.toList ++ mark :: tail.toList)
  have ends := @Text.cutEnding mark name.toList [] (by simpa using free) tail.toList
  rw [List.append_nil, List.nil_append] at ends
  rw [Wording.name, opens.message, between?, opens.opening, opens.closing, found]
  simp [ends]

end Wording

theorem conflictOpens {statement noun : String} {kind : ConstraintKind}
    (plain : '"' ∉ statement.toList ∧ '"' ∉ noun.toList) :
    (conflict statement noun kind).Opens '"'
      ("mssql: The " ++ statement ++ " statement conflicted with the ")
      (noun ++ " constraint ") where
  closing := by simp [conflict]
  opening := by
    have quote : " constraint \"" = " constraint " ++ "\"" := rfl
    simp [conflict, quote]
  lead := by simp [conflict, String.append_assoc]
  fresh := by
    have free : '"' ∉ "mssql: The ".toList ∧ '"' ∉ " statement conflicted with the ".toList ∧
        '"' ∉ " constraint ".toList := by decide
    simp only [conflict, String.toList_append, List.mem_append, not_or]
    exact ⟨⟨⟨⟨free.1, plain.1⟩, free.2.1⟩, plain.2⟩, free.2.2⟩

theorem keyOpens {lead : String} (plain : '\'' ∉ lead.toList) :
    (Wording.mk lead .unique "constraint '" "'").Opens '\'' (lead ++ " ") "constraint " where
  closing := by simp
  opening := by simp
  lead := by
    have space : " constraint " = " " ++ "constraint " := rfl
    rw [space, String.append_assoc]
  fresh := by
    have free : '\'' ∉ " constraint ".toList := by decide
    simp only [String.toList_append, List.mem_append, not_or]
    exact ⟨plain, free⟩

theorem wordingsOpen : ∀ wording ∈ wordings, ∃ mark stem words, wording.Opens mark stem words := by
  have keys : ∀ wording ∈ [primaryKey, uniqueKey], ∃ mark stem words,
      wording.Opens mark stem words := by
    simp only [List.forall_mem_cons]
    exact ⟨⟨_, _, _, keyOpens (by decide)⟩, ⟨_, _, _, keyOpens (by decide)⟩, by simp⟩
  have conflicts : ∀ statement ∈ ["UPDATE", "INSERT", "DELETE"],
      ∀ noun ∈ ["FOREIGN KEY", "REFERENCE", "CHECK"], ∀ kind, ∃ mark stem words,
        (conflict statement noun kind).Opens mark stem words := by
    intro statement inside noun among kind
    have plain : ∀ statement ∈ ["UPDATE", "INSERT", "DELETE"],
        ∀ noun ∈ ["FOREIGN KEY", "REFERENCE", "CHECK"],
          '"' ∉ statement.toList ∧ '"' ∉ noun.toList := by decide
    exact ⟨_, _, _, conflictOpens (plain statement inside noun among)⟩
  intro wording member
  simp only [wordings, List.mem_cons, List.not_mem_nil, or_false] at member
  rcases member with rfl | rfl | rfl | rfl | rfl | rfl | rfl
  · exact keys _ (by simp)
  · exact keys _ (by simp)
  all_goals exact conflicts _ (by simp) _ (by simp) _

theorem wordingsApart : wordings.Pairwise fun one other =>
    ¬ one.lead.toList <+: other.lead.toList ∧ ¬ other.lead.toList <+: one.lead.toList := by
  decide +kernel

theorem beginsOnce (message : List Char) : (wordings.filter (·.begins message)).length ≤ 1 := by
  have apart := wordingsApart.filter (·.begins message)
  cases begun : wordings.filter (·.begins message) with
  | nil => simp
  | cons one rest =>
    cases rest with
    | nil => simp
    | cons other more =>
      have both : ∀ wording ∈ [one, other], wording.lead.toList <+: message := by
        intro wording inside
        have member : wording ∈ wordings.filter (·.begins message) := by
          rw [begun]
          exact List.mem_append_left more inside
        exact List.isPrefixOf_iff_prefix.mp (List.mem_filter.mp member).2
      rw [begun] at apart
      have incomparable := (List.pairwise_cons.mp apart).1 other (by simp)
      rcases List.prefix_or_prefix_of_prefix (both one (by simp)) (both other (by simp)) with
        first | second
      · exact absurd first incomparable.1
      · exact absurd second incomparable.2

theorem findBegun {wording : Wording} (known : wording ∈ wordings) {message : List Char}
    (begins : wording.begins message = true) :
    wordings.find? (·.begins message) = some wording := by
  have member : wording ∈ wordings.filter (·.begins message) := List.mem_filter.mpr ⟨known, begins⟩
  obtain ⟨only, one⟩ : ∃ only, wordings.filter (·.begins message) = [only] :=
    List.length_eq_one_iff.mp
      (Nat.le_antisymm (beginsOnce message) (List.length_pos_of_mem member))
  rw [one] at member
  rw [← List.head?_filter, one, List.mem_singleton.mp member]
  rfl

def classifyBy (table : List Wording) (message : String) : Option (ConstraintKind × String) :=
  (table.find? (·.begins message.toList)).map fun wording =>
    (wording.kind, String.ofList (wording.name message.toList))

theorem classifyPerm {table : List Wording} (same : table.Perm wordings) (message : String) :
    classifyBy table message = classify message := by
  have begun := same.filter (·.begins message.toList)
  have found : table.find? (·.begins message.toList) =
      wordings.find? (·.begins message.toList) := by
    rw [← List.head?_filter, ← List.head?_filter]
    cases several : wordings.filter (·.begins message.toList) with
    | nil =>
      rw [several] at begun
      rw [begun.eq_nil]
    | cons one rest =>
      have once := beginsOnce message.toList
      rw [several, List.length_cons] at once
      have alone : rest = [] := List.length_eq_zero_iff.mp (by omega)
      rw [several, alone] at begun
      rw [List.perm_singleton.mp begun, alone]
  rw [classifyBy, found, classify]

theorem classifyNone {message : String} :
    classify message = none ↔ ∀ wording ∈ wordings, ¬ wording.begins message.toList = true := by
  rw [classify, Option.map_eq_none_iff, List.find?_eq_none]

theorem betweenFree {opening closing message name : List Char} (marked : closing ≠ [])
    (found : between? opening closing message = some name) : ¬ closing <:+: name := by
  simp only [between?, bind, Option.bind_eq_some_iff] at found
  obtain ⟨_, _, ⟨inner, rest⟩, second, same⟩ := found
  cases Option.some.inj same
  exact Text.cutBefore second marked

theorem nameInside (wording : Wording) (marked : wording.closing.toList ≠ [])
    (message : List Char) :
    wording.name message <:+: message ∧ ¬ wording.closing.toList <:+: wording.name message := by
  rw [Wording.name]
  cases found : between? wording.opening.toList wording.closing.toList message with
  | none => exact ⟨List.nil_infix, fun inside => marked (List.eq_nil_of_infix_nil inside)⟩
  | some name =>
    refine ⟨?_, betweenFree marked found⟩
    obtain ⟨before, rest, join⟩ := betweenJoin found
    exact ⟨before ++ wording.opening.toList, wording.closing.toList ++ rest, by simp [join]⟩

theorem wordingsInverted :
    (∀ wording ∈ wordings, ∀ name tail : String, ¬ wording.closing.toList <:+: name.toList →
      classify (wording.message name tail) = some (wording.kind, name)) ∧
    ∀ message : String,
      (wordings.filter (·.begins message.toList)).length ≤ 1 ∧
      (∀ table : List Wording, table.Perm wordings → classifyBy table message = classify message) ∧
      (classify message = none ↔
        ∀ wording ∈ wordings, ¬ wording.begins message.toList = true) ∧
      ∀ kind name, classify message = some (kind, name) →
        ∃ wording ∈ wordings, wording.begins message.toList = true ∧ kind = wording.kind ∧
          name.toList <:+: message.toList ∧ ¬ wording.closing.toList <:+: name.toList := by
  refine ⟨fun wording known name tail absent => ?_, fun message =>
    ⟨beginsOnce _, fun table same => classifyPerm same message, classifyNone,
      fun kind name classified => ?_⟩⟩
  · obtain ⟨mark, stem, words, opens⟩ := wordingsOpen wording known
    rw [opens.closing, List.singleton_infix_iff] at absent
    have begins : wording.begins (wording.message name tail).toList = true := by
      rw [Wording.begins, List.isPrefixOf_iff_prefix, Wording.message]
      simp only [String.toList_append, List.append_assoc]
      exact List.prefix_append _ _
    rw [classify, findBegun known begins, Option.map_some, opens.nameOfMessage absent tail,
      String.ofList_toList]
  · obtain ⟨wording, found, same⟩ := Option.map_eq_some_iff.mp classified
    obtain ⟨rfl, rfl⟩ := Prod.mk.inj same
    have known := List.mem_of_find?_eq_some found
    obtain ⟨mark, _, _, opens⟩ := wordingsOpen wording known
    have inside := nameInside wording (by simp [opens.closing]) message.toList
    rw [String.toList_ofList]
    exact ⟨wording, known, (List.find?_eq_some_iff_append.mp found).1, rfl, inside⟩

theorem checkRead :
    let wording := conflict "UPDATE" "CHECK" .check
    let name := "CK_team's"
    let message := wording.message name ", not the FOREIGN KEY constraint \"FK_team\"."
    wording ∈ wordings ∧ ¬ wording.closing.toList <:+: name.toList ∧
    wordings.reverse.Perm wordings ∧
    classify message = some (.check, name) ∧
    classifyBy wordings.reverse message = some (.check, name) ∧
    name.toList <:+: message.toList := by
  intro wording name message
  have known : wording ∈ wordings := by simp [wording, wordings]
  have absent : ¬ wording.closing.toList <:+: name.toList := by
    simp [wording, name, conflict, List.singleton_infix_iff]
  have turned : wordings.reverse.Perm wordings := List.reverse_perm wordings
  obtain ⟨inverted, settled⟩ := wordingsInverted
  have classified : classify message = some (.check, name) :=
    inverted wording known name _ absent
  obtain ⟨_, anyOrder, _, pieces⟩ := settled message
  obtain ⟨_, _, _, _, piece, _⟩ := pieces .check name classified
  exact ⟨known, absent, turned, classified, (anyOrder _ turned).trans classified, piece⟩

end Sqlwright.Constraint
