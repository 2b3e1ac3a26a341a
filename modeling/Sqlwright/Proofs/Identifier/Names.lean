import Sqlwright.Proofs.Identifier.Cache
import Sqlwright.Proofs.Identifier.Plain
import Sqlwright.Proofs.Text.Delimited

/-! Quoted names read back. A closing quote that is written twice belongs to the name, so a name
ends at the first that is not, and a dot behind it leads to the next name. What is read from an
escaped plain field is its dotted parts, whatever quotes stand in them. -/
namespace Sqlwright.Identifier

def name? (opening : List Char) (mark : Char) (text : List Char) :
    Option (List Char × List Char) :=
  (Text.after? opening text).bind (Text.delimited? mark)

theorem nameShorter {opening text name rest : List Char} {mark : Char}
    (read : name? opening mark text = some (name, rest)) : rest.length < text.length := by
  obtain ⟨body, opened, inside⟩ := Option.bind_eq_some_iff.mp read
  have shorter := Text.readShorter inside
  rw [Text.afterJoin opened, List.length_append]
  omega

def names? (opening : List Char) (mark : Char) (text : List Char) :
    Option (List (List Char) × List Char) :=
  match _ : name? opening mark text with
  | none => none
  | some (name, '.' :: rest) =>
      (names? opening mark rest).map fun (names, rest) => (name :: names, rest)
  | some (name, rest) => some ([name], rest)
termination_by text.length
decreasing_by
  have shorter := nameShorter ‹_›
  rw [List.length_cons] at shorter
  omega

def quotedName (opening : List Char) (mark : Char) (name : List Char) : List Char :=
  opening ++ Text.doubled mark name ++ [mark]

theorem nameQuoted (opening : List Char) {mark : Char} (name : List Char) {rest : List Char}
    (ends : rest.head? ≠ some mark) :
    name? opening mark (quotedName opening mark name ++ rest) = some (name, rest) := by
  have opened : Text.after? opening (quotedName opening mark name ++ rest) =
      some (Text.doubled mark name ++ mark :: rest) := by
    simp [Text.after?, quotedName]
  rw [name?, opened]
  exact Text.readDoubled mark name rest ends

theorem namesQuoted (opening : List Char) {mark : Char} (other : mark ≠ '.')
    {names : List (List Char)} (filled : names ≠ []) :
    names? opening mark (['.'].intercalate (names.map (quotedName opening mark))) =
      some (names, []) := by
  induction names with
  | nil => exact absurd rfl filled
  | cons name more ih =>
    cases more with
    | nil =>
      have ends : ([] : List Char).head? ≠ some mark := by simp
      have read := nameQuoted opening name ends
      rw [List.append_nil] at read
      rw [List.map_singleton, List.intercalate_singleton, names?, read]
    | cons next later =>
      let rest := ['.'].intercalate ((next :: later).map (quotedName opening mark))
      have ends : ('.' :: rest).head? ≠ some mark := by simpa using Ne.symm other
      have read := nameQuoted opening name ends
      have whole : ['.'].intercalate ((name :: next :: later).map (quotedName opening mark)) =
          quotedName opening mark name ++ '.' :: rest := by
        rw [List.map_cons, List.map_cons, List.intercalate_cons_cons, List.append_assoc]
        rfl
      rw [whole, names?, read]
      exact congrArg (Option.map _) (ih (List.cons_ne_nil next later))

structure Rules.Doubles (rules : Rules) (mark : Char) : Prop where
  closing : rules.closing = [mark]
  closingEscape : rules.closingEscape = [mark, mark]
  notDot : mark ≠ '.'

namespace Rules

variable {rules : Rules} {mark : Char}

theorem Doubles.segment (doubles : rules.Doubles mark) (text : List Char) :
    rules.segment text = quotedName rules.opening mark text := by
  have body : Text.replace [mark] [mark, mark] text = Text.doubled mark text :=
    Text.replaceSingle mark [mark, mark] text
  simp [Rules.segment, doubles.closing, doubles.closingEscape, body, quotedName]

theorem Plain.quoted {field : List Char} (plain : rules.Plain field)
    (doubles : rules.Doubles mark) : rules.escapeChars field =
      ['.'].intercalate ((field.splitOn '.').map (quotedName rules.opening mark)) := by
  have closed : rules.closing ≠ [] := by simp [doubles.closing]
  rw [plain.escaped closed, dotted, if_neg Bool.false_ne_true, List.append_nil,
    Text.segmentsSplitOn]
  exact congrArg _ (List.map_congr_left fun part _ => doubles.segment part)

theorem Plain.read {field : List Char} (plain : rules.Plain field)
    (doubles : rules.Doubles mark) :
    names? rules.opening mark (rules.escapeChars field) = some (field.splitOn '.', []) := by
  rw [plain.quoted doubles]
  exact namesQuoted rules.opening doubles.notDot (List.splitOn_ne_nil '.' field)

theorem Plain.unique {field other : List Char} (plain : rules.Plain field)
    (again : rules.Plain other) (doubles : rules.Doubles mark)
    (same : rules.escapeChars other = rules.escapeChars field) : other = field := by
  have parts : other.splitOn '.' = field.splitOn '.' := by
    have read := again.read doubles
    rw [same, plain.read doubles] at read
    exact (congrArg Prod.fst (Option.some.inj read)).symm
  calc other = ['.'].intercalate (other.splitOn '.') := (List.intercalate_splitOn '.').symm
    _ = ['.'].intercalate (field.splitOn '.') := by rw [parts]
    _ = field := List.intercalate_splitOn '.'

end Rules

theorem plainNamesRead (earlier later : List (Rules × String)) {rules : Rules} {mark : Char}
    (doubles : rules.Doubles mark) {field : String} (plain : rules.Plain field.toList) :
    let text := ((Cache.after earlier).escape rules field).1
    names? rules.opening mark text.toList = some (field.toList.splitOn '.', []) ∧
    text.toList =
      ['.'].intercalate ((field.toList.splitOn '.').map (quotedName rules.opening mark)) ∧
    ∀ other : String, rules.Plain other.toList →
      ((Cache.after later).escape rules other).1 = text → other = field := by
  intro text
  have escaped : ∀ (calls : List (Rules × String)) (name : String),
      ((Cache.after calls).escape rules name).1.toList = rules.escapeChars name.toList := by
    intro calls name
    rw [(Cache.escapeSound (Cache.afterSound calls) rules name).1, Rules.escape,
      String.toList_ofList]
  refine ⟨?_, ?_, ?_⟩
  · rw [escaped]
    exact plain.read doubles
  · rw [escaped]
    exact plain.quoted doubles
  · intro other again same
    have chars : rules.escapeChars other.toList = rules.escapeChars field.toList := by
      rw [← escaped later, ← escaped earlier]
      exact congrArg String.toList same
    exact String.toList_inj.mp (plain.unique again doubles chars)

theorem bracketedPartsRead :
    let rules := Rules.ofConfig {}
    let text := ((Cache.after [(rules, "dbo.we]ird")]).escape rules "dbo..we]ird]]").1
    rules.Doubles ']' ∧ rules.Plain "dbo..we]ird]]".toList ∧ rules.Plain "dbo.].we]ird]".toList ∧
    text = "[dbo].[].[we]]ird]]]]]" ∧
    names? ['['] ']' text.toList = some (["dbo".toList, [], "we]ird]]".toList], []) ∧
    (Cache.empty.escape rules "dbo.].we]ird]").1 ≠ text := by
  intro rules text
  have doubles : rules.Doubles ']' := ⟨rfl, rfl, by decide⟩
  have plain : rules.Plain "dbo..we]ird]]".toList := by decide
  have again : rules.Plain "dbo.].we]ird]".toList := by decide
  obtain ⟨read, spelled, unique⟩ := plainNamesRead [(rules, "dbo.we]ird")] [] doubles plain
  refine ⟨doubles, plain, again, ?_, read, ?_⟩
  · rw [← String.ofList_toList (s := text), spelled]
    decide
  · intro same
    exact absurd (unique _ again same) (by decide)

end Sqlwright.Identifier
