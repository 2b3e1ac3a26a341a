import Sqlwright.Proofs.Statement.Token
import Sqlwright.Proofs.Text.Delimited

/-! Literals between quotes. Where the quote is one character and is doubled inside a literal, a
literal reads back as its text and nothing that follows it is read as part of it, unless that
begins with the quote. In pieces that write values out, what stands around a literal is the same
whatever its text is; it cannot begin with the quote where a fence stands behind the literal. -/
namespace Sqlwright

def Text.literal? (mark : Char) : List Char → Option (List Char × List Char)
  | [] => none
  | c :: rest => if c = mark then delimited? mark rest else none

structure Config.DoublesQuote (config : Config) (mark : Char) : Prop where
  literal : config.quoting.literal.toList = [mark]
  literalEscape : config.quoting.literalEscape.toList = [mark, mark]

namespace Config.DoublesQuote

variable {config : Config} {mark : Char}

theorem quotedChars (doubles : config.DoublesQuote mark) (text : String) :
    (config.quoted text).toList = mark :: (Text.doubled mark text.toList ++ [mark]) := by
  simp [quoted, doubles.literal, doubles.literalEscape, Text.replaceSingle, Text.doubled]

theorem read (doubles : config.DoublesQuote mark) (text : String) (rest : List Char) :
    Text.literal? mark ((config.quoted text).toList ++ rest) = some (text.toList, rest) ↔
      rest.head? ≠ some mark := by
  have opened : Text.literal? mark ((config.quoted text).toList ++ rest) =
      Text.delimited? mark (Text.doubled mark text.toList ++ mark :: rest) := by
    simp [doubles.quotedChars, Text.literal?]
  rw [opened, Text.readIff]
  exact and_iff_right rfl

theorem quotedSame (doubles : config.DoublesQuote mark) {text other : String} :
    config.quoted text = config.quoted other ↔ text = other := by
  constructor
  · intro same
    have first := (doubles.read text []).mpr (by simp)
    have second := (doubles.read other []).mpr (by simp)
    rw [same, second] at first
    simp only [Option.some.injEq, Prod.mk.injEq, and_true] at first
    exact String.toList_inj.mp first.symm
  · exact congrArg config.quoted

end Config.DoublesQuote

def Value.quotedText? : Value → Option String
  | .string content => some content
  | .date value => some (value.moment.text Layout.date)
  | .time value => some (value.moment.text Layout.time)
  | .dateTime value => some (value.moment.text Layout.dateTime)
  | .offsetDateTime value => some (value.moment.text Layout.offsetDateTime)
  | .uuid value => some value.text
  | .json value => some value.text
  | _ => none

theorem Value.literalQuoted (config : Config) {value : Value} {content : String}
    (quoted : value.quotedText? = some content) :
    value.literal config = config.quoted content := by
  cases value with
  | null | bool | int | float | bytes | decimal => cases quoted
  | _ => exact congrArg config.quoted (Option.some.inj quoted)

namespace Piece

def quotedText? : Piece → Option String
  | .quoted content => some content
  | .value item => item.quotedText?
  | _ => none

def literal? (config : Config) : Piece → Option String
  | .quoted content => some (config.quoted content)
  | .value item => some (item.literal config)
  | _ => none

theorem literalOfText (config : Config) {piece : Piece} {content : String}
    (quoted : piece.quotedText? = some content) :
    piece.literal? config = some (config.quoted content) := by
  cases piece with
  | quoted own =>
    cases quoted
    rfl
  | value item => exact congrArg some (item.literalQuoted config quoted)
  | _ => cases quoted

theorem literalTokens {config : Config} {piece : Piece} {literal : String}
    (written : piece.literal? config = some literal) (count : Nat) :
    piece.tokens config.inlined count = [.text literal] ∧ piece.bound config.inlined = [] := by
  cases piece with
  | quoted own =>
    cases written
    exact ⟨rfl, rfl⟩
  | value item =>
    cases written
    exact ⟨congrArg (fun sql => [Token.text sql]) (item.literalInlined config), rfl⟩
  | _ => cases written

def textBefore (config : Config) (before : List Piece) : String :=
  Token.joined config.inlined (allTokens config.inlined 0 before)

def textBehind (config : Config) (before after : List Piece) : String :=
  Token.joined config.inlined
    (allTokens config.inlined (allBound config.inlined before).length after)

theorem literalInPlace {config : Config} {piece : Piece} {literal : String}
    (written : piece.literal? config = some literal) (before after : List Piece) :
    Statement.empty.extended config.inlined (before ++ piece :: after) =
      ⟨textBefore config before ++ literal ++ textBehind config before after,
        allBound config.inlined (before ++ after)⟩ := by
  obtain ⟨tokens, bound⟩ := literalTokens written (allBound config.inlined before).length
  have arguments : allBound config.inlined (before ++ piece :: after) =
      allBound config.inlined (before ++ after) := by
    simp only [allBound, List.flatMap_append, List.flatMap_cons, bound, List.nil_append]
  rw [Statement.extendedEmpty, arguments, allTokensAppend, Token.joinedAppend, Nat.zero_add,
    allTokens, tokens, bound, String.append_assoc]
  rfl

def isLiteral : Piece → Bool
  | .value _ => true
  | .quoted _ => true
  | _ => false

theorem literalOfQuoted {piece : Piece} {content : String}
    (quoted : piece.quotedText? = some content) : piece.isLiteral = true := by
  cases piece with
  | value => rfl
  | quoted => rfl
  | _ => cases quoted

def fences : List Char := [' ', ',', ')', ';']

def opensFenced : List Piece → Bool
  | [] => true
  | .text sql :: _ => sql.toList.head?.any fences.contains
  | _ => false

theorem opensAppend {first second : List Piece} (here : opensFenced first = true)
    (later : opensFenced second = true) : opensFenced (first ++ second) = true := by
  cases first with
  | nil => exact later
  | cons piece rest =>
    cases piece with
    | text sql => exact here
    | _ => cases here

theorem joinedOpens (config : Config) (count : Nat) {pieces : List Piece}
    (opens : opensFenced pieces = true) :
    ∀ c ∈ (Token.joined config (allTokens config count pieces)).toList.head?, c ∈ fences := by
  intro c found
  cases pieces with
  | nil => cases found
  | cons piece rest =>
    cases piece with
    | text sql =>
      obtain ⟨first, head, fence⟩ : ∃ first, sql.toList.head? = some first ∧
          fences.contains first = true := by
        simpa [opensFenced, Option.any_eq_true] using opens
      rw [textOfTokens, String.toList_append, List.head?_append, head] at found
      cases found
      exact List.contains_iff_mem.mp fence
    | _ => cases opens

def isPlain (pieces : List Piece) : Bool := pieces.all fun piece => !piece.isLiteral

theorem plainAppend {first second : List Piece} (here : isPlain first = true)
    (later : isPlain second = true) : isPlain (first ++ second) = true := by
  rw [isPlain, List.all_append, Bool.and_eq_true]
  exact ⟨here, later⟩

theorem plainSeparated (word : String) {parts : List (List Piece)}
    (plain : ∀ part ∈ parts, isPlain part = true) : isPlain (separated word parts) = true := by
  unfold separated
  induction parts with
  | nil => rfl
  | cons part rest ih =>
    obtain ⟨here, later⟩ := List.forall_mem_cons.mp plain
    cases rest with
    | nil => simpa using here
    | cons next more =>
      rw [List.intercalate_cons_cons]
      exact plainAppend (plainAppend here rfl) (ih later)

theorem plainFields (separator : String) (names : List String) :
    isPlain (fields separator names) = true := by
  refine plainSeparated separator fun part listed => ?_
  obtain ⟨name, -, rfl⟩ := List.mem_map.mp listed
  rfl

theorem plainEnclosed {body : List Piece} (plain : isPlain body = true) :
    isPlain (enclosed body) = true := plainAppend plain rfl

/-- Every literal is followed by a fence, or by nothing. -/
def Fenced : List Piece → Prop
  | [] => True
  | piece :: rest => (piece.isLiteral = true → opensFenced rest = true) ∧ Fenced rest

theorem fencedBehind {first second : List Piece} (plain : isPlain first = true)
    (later : Fenced second) : Fenced (first ++ second) := by
  induction first with
  | nil => exact later
  | cons piece rest ih =>
    rw [isPlain, List.all_cons, Bool.and_eq_true] at plain
    exact ⟨fun literal => by simp [literal] at plain, ih plain.2⟩

theorem fencedPlain {pieces : List Piece} (plain : isPlain pieces = true) : Fenced pieces := by
  rw [← List.append_nil pieces]
  exact fencedBehind plain trivial

theorem fencedOne (piece : Piece) : Fenced [piece] := ⟨fun _ => rfl, trivial⟩

theorem fencedText (sql : String) {rest : List Piece} (fenced : Fenced rest) :
    Fenced (.text sql :: rest) := by
  have plain : isPlain [.text sql] = true := rfl
  exact fencedBehind plain fenced

theorem fencedField (name : String) {rest : List Piece} (fenced : Fenced rest) :
    Fenced (.field name :: rest) := by
  have plain : isPlain [.field name] = true := rfl
  exact fencedBehind plain fenced

theorem fencedAppend {first second : List Piece} (fenced : Fenced first)
    (opens : opensFenced second = true) (later : Fenced second) : Fenced (first ++ second) := by
  induction first with
  | nil => exact later
  | cons piece rest ih =>
    exact ⟨fun literal => opensAppend (fenced.1 literal) opens, ih fenced.2⟩

theorem fencedSeparated {word : String} (fence : opensFenced [.text word] = true)
    {parts : List (List Piece)} (fenced : ∀ part ∈ parts, Fenced part) :
    Fenced (separated word parts) := by
  unfold separated
  induction parts with
  | nil => trivial
  | cons part rest ih =>
    obtain ⟨here, later⟩ := List.forall_mem_cons.mp fenced
    cases rest with
    | nil => simpa using here
    | cons next more =>
      rw [List.intercalate_cons_cons, List.append_assoc]
      exact fencedAppend here fence (fencedBehind rfl (ih later))

theorem fencedEnclosed {body : List Piece} (fenced : Fenced body) : Fenced (enclosed body) :=
  fencedText "(" (fencedAppend fenced rfl (fencedPlain rfl))

theorem fencedAt {before after : List Piece} {piece : Piece}
    (fenced : Fenced (before ++ piece :: after)) (literal : piece.isLiteral = true) :
    opensFenced after = true := by
  induction before with
  | nil => exact fenced.1 literal
  | cons first rest ih => exact ih fenced.2

end Piece

end Sqlwright
