import Sqlwright.Proofs.Identifier.Kept
import Sqlwright.Proofs.Identifier.Scan

/-! The first span of matched parentheses, told by positions: the first parenthesis opened, and the
nearest position behind it up to which as many are closed as opened. Until the scan is there one of
them is open, so the count is never taken below zero, and the bytes at which it stops cut the field
into the parts of a call. -/
namespace Sqlwright.Identifier
open Text (bytes byteAt)

structure OpensAt (field : List Char) (position : Nat) : Prop where
  opening : field[position]? = some '('
  first : '(' ∉ field.take position

def LevelAt (field : List Char) (start stop : Nat) : Prop :=
  ((field.take (stop + 1)).drop start).count '(' = ((field.take (stop + 1)).drop start).count ')'

structure FirstSpan (field : List Char) (start stop : Nat) : Prop where
  opens : OpensAt field start
  order : start < stop
  inside : stop < field.length
  level : LevelAt field start stop
  nearest : ∀ between, start < between → between < stop → ¬ LevelAt field start between

theorem OpensAt.split {field : List Char} {position : Nat} (opens : OpensAt field position) :
    ∃ before rest, field = before ++ '(' :: rest ∧ '(' ∉ before ∧ before.length = position := by
  obtain ⟨short, same⟩ := List.getElem?_eq_some_iff.mp opens.opening
  refine ⟨field.take position, field.drop (position + 1), ?_, opens.first, by simp; omega⟩
  rw [← same, ← List.drop_eq_getElem_cons short, List.take_append_drop]

theorem opensFirst {before : List Char} (first : '(' ∉ before) (rest : List Char) :
    OpensAt (before ++ '(' :: rest) before.length :=
  ⟨by simp, by simpa using first⟩

theorem fromOpening (before rest : List Char) (distance : Nat) :
    ((before ++ '(' :: rest).take (before.length + (distance + 1))).drop before.length =
      '(' :: rest.take distance := by
  rw [List.take_length_add_append, List.drop_left, List.take_succ_cons]

theorem levelFrom (before rest : List Char) (distance : Nat) :
    LevelAt (before ++ '(' :: rest) before.length (before.length + distance) ↔
      (rest.take distance).count '(' + 1 = (rest.take distance).count ')' := by
  rw [LevelAt, Nat.add_assoc, fromOpening, List.count_cons_self, List.count_cons_of_ne (by decide)]

theorem spanNearest {field : List Char} {opens closes : Nat}
    (found : parenSpan? field = some (opens, closes)) : FirstSpan field opens closes := by
  obtain ⟨before, inside, after, ⟨rfl, first, level, stays⟩, rfl, rfl⟩ := spanDivides found
  refine ⟨opensFirst first _, by omega, by simp, ?_, fun between behind earlier same => ?_⟩
  · have whole : (inside ++ ')' :: after).take (inside.length + 1) = inside ++ [')'] := by
      rw [List.take_length_add_append]
      rfl
    rw [levelFrom, whole]
    simpa using level
  · obtain ⟨distance, rfl⟩ := Nat.exists_eq_add_of_lt behind
    rw [Nat.add_assoc, levelFrom, List.take_append_of_le_length (by omega)] at same
    have above := stays (inside.take (distance + 1)) (List.take_prefix _ _)
    omega

theorem closedSpan {field : List Char} {start stop : Nat} (opens : OpensAt field start)
    (behind : start < stop) (level : LevelAt field start stop) :
    ∃ closes, parenSpan? field = some (start, closes) := by
  obtain ⟨before, rest, rfl, first, rfl⟩ := opens.split
  obtain ⟨distance, rfl⟩ := Nat.exists_eq_add_of_lt behind
  rw [parenSpanAt first]
  cases found : closing? 1 rest with
  | none =>
    have above := closingNone Nat.one_pos found _ (List.take_prefix (distance + 1) rest)
    rw [Nat.add_assoc, levelFrom] at level
    omega
  | some closes => exact ⟨_, rfl⟩

theorem spanIff {field : List Char} {start stop : Nat} :
    parenSpan? field = some (start, stop) ↔ FirstSpan field start stop := by
  refine ⟨spanNearest, fun span => ?_⟩
  obtain ⟨closes, found⟩ := closedSpan span.opens span.order span.level
  have other := spanNearest found
  rcases Nat.lt_trichotomy closes stop with earlier | rfl | later
  · exact absurd other.level (span.nearest _ other.order earlier)
  · exact found
  · exact absurd span.level (other.nearest _ span.order later)

namespace Scan

theorem openThrough {field : List Char} {opens stop : Nat} (starts : OpensAt field opens)
    (behind : opens < stop)
    (within : ∀ closes, parenSpan? field = some (opens, closes) → stop ≤ closes) :
    let scanned := (field.take stop).drop opens
    ∃ depth, 0 < depth ∧ depth + scanned.count ')' = scanned.count '(' ∧
      (going 0 0).through scanned = going depth (bytes scanned) := by
  obtain ⟨before, rest, rfl, first, rfl⟩ := starts.split
  obtain ⟨distance, rfl⟩ := Nat.exists_eq_add_of_lt behind
  have stays : StaysOpen 1 (rest.take distance) := by
    cases found : closing? 1 rest with
    | none => exact (closingNone Nat.one_pos found).lead (List.take_prefix _ _)
    | some closes =>
      obtain ⟨inside, after, rfl, length, _, stays⟩ := closingSome Nat.one_pos found
      have near := within _ (by rw [parenSpanAt first, found]; rfl)
      rw [List.take_append_of_le_length (by omega)]
      exact stays.lead (List.take_prefix _ _)
  obtain ⟨depth, opened, level, run⟩ := throughOpen stays 1
  intro scanned
  have same : scanned = '(' :: rest.take distance := fromOpening before rest distance
  refine ⟨depth, opened, ?_, ?_⟩
  · rw [same, List.count_cons_self, List.count_cons_of_ne (by decide)]
    omega
  · rw [same, bytes]
    exact run

theorem unbroken {field : List Char} {opens : Nat} (starts : OpensAt field opens) (stop : Nat) :
    (going 0 0).through ((field.take stop).drop opens) ≠ broken := by
  obtain ⟨before, rest, rfl, first, rfl⟩ := starts.split
  rcases Nat.lt_or_ge before.length stop with behind | ahead
  · obtain ⟨distance, rfl⟩ := Nat.exists_eq_add_of_lt behind
    rw [Nat.add_assoc, fromOpening]
    exact (throughClosing Nat.one_pos 1 _).1
  · rw [List.drop_eq_nil_of_le (by simp; omega)]
    exact Scan.noConfusion

end Scan

/-- A field in three parts, cut behind the byte at `first` and in front of the byte at `last`. -/
structure Slices (field : String) (first last : Nat) (head inner tail : List Char) : Prop where
  order : first < last
  inside : last < field.utf8ByteSize
  upTo : field.toByteArray.extract 0 (first + 1) = head.utf8Encode
  between : field.toByteArray.extract (first + 1) last = inner.utf8Encode
  onwards : field.toByteArray.extract last field.utf8ByteSize = tail.utf8Encode
  join : head ++ inner ++ tail = field.toList

theorem slicesOfParts {field : String} {first last : Nat} {head inner tail : List Char}
    (join : head ++ inner ++ tail = field.toList) (behind : bytes head = first + 1)
    (ahead : bytes (head ++ inner) = last) (filled : tail ≠ []) :
    Slices field first last head inner tail := by
  have encoded : field.toByteArray = (head ++ inner ++ tail).utf8Encode := by
    rw [join, String.utf8Encode_toList]
  have size : field.utf8ByteSize = bytes (head ++ inner ++ tail) := by
    rw [← String.size_toByteArray, encoded, Text.bytesEncoded]
  refine ⟨?_, ?_, ?_, ?_, ?_, join⟩
  · rw [← ahead, Text.bytesAppend]
    omega
  · obtain ⟨c, rest, rfl⟩ := List.exists_cons_of_ne_nil filled
    have := c.utf8Size_pos
    rw [size, ← ahead, Text.bytesAppend (head ++ inner), bytes]
    omega
  · rw [encoded, ← behind, List.append_assoc]
    exact Text.extractBetween [] head (inner ++ tail)
  · rw [encoded, ← behind, ← ahead]
    exact Text.extractBetween head inner tail
  · rw [encoded, size, ← ahead]
    simpa using Text.extractBetween (head ++ inner) tail []

theorem spanSlices {field : String} {opens closes : Nat}
    (found : parenSpan? field.toList = some (opens, closes)) :
    Slices field (byteAt field.toList opens) (byteAt field.toList closes)
      (field.toList.take (opens + 1)) ((field.toList.take closes).drop (opens + 1))
      (field.toList.drop closes) := by
  have span := spanNearest found
  have front := List.append_cancel_right
    ((spanJoin found).trans (List.take_append_drop closes field.toList).symm)
  refine slicesOfParts (spanJoin found) ?_ (congrArg bytes front) ?_
  · rw [List.take_add_one, span.opens.opening, Text.bytesAppend]
    rfl
  · simpa using span.inside

theorem firstSpanFound (field : String) :
    let text := field.toList
    ((parenSpan? text).isSome ↔ ∃ start stop, OpensAt text start ∧ start < stop ∧
      stop < text.length ∧ LevelAt text start stop) ∧
    (∀ start stop, parenSpan? text = some (start, stop) ↔ FirstSpan text start stop) ∧
    (∀ start stop, OpensAt text start →
      let scanned := (text.take stop).drop start
      (Scan.going 0 0).through scanned ≠ .broken ∧
      (start < stop → (∀ closes, parenSpan? text = some (start, closes) → stop ≤ closes) →
        ∃ depth, 0 < depth ∧ depth + scanned.count ')' = scanned.count '(' ∧
          (Scan.going 0 0).through scanned = .going depth (bytes scanned))) ∧
    Scan.span? text =
      (parenSpan? text).map (fun ends => (byteAt text ends.1, byteAt text ends.2)) ∧
    (∀ start stop, parenSpan? text = some (start, stop) →
      Slices field (byteAt text start) (byteAt text stop) (text.take (start + 1))
        ((text.take stop).drop (start + 1)) (text.drop stop)) ∧
    ∀ bypass head inner tail, Form.of bypass text = .call head inner tail →
      ∃ first last, Scan.span? text = some (first, last) ∧
        Slices field first last head inner tail := by
  intro text
  refine ⟨⟨fun found => ?_, fun ⟨start, stop, opens, behind, _, level⟩ => ?_⟩,
    fun start stop => spanIff,
    fun start stop opens => ⟨Scan.unbroken opens stop, Scan.openThrough opens⟩,
    Scan.spanBytes text, fun start stop found => spanSlices found,
    fun bypass head inner tail form => ?_⟩
  · obtain ⟨⟨start, stop⟩, here⟩ := Option.isSome_iff_exists.mp found
    have span := spanNearest here
    exact ⟨start, stop, span.opens, span.order, span.inside, span.level⟩
  · obtain ⟨closes, found⟩ := closedSpan opens behind level
    rw [found]
    rfl
  · obtain ⟨opens, closes, found, rfl, rfl, rfl⟩ := Form.callSpan form
    exact ⟨_, _, by rw [Scan.spanBytes, found]; rfl, spanSlices found⟩

theorem strayClosersPassed :
    let field := "a)é(b(ü)c)) d("
    let text := field.toList
    let unclosed := "a)é((b)".toList
    FirstSpan text 3 9 ∧ Scan.span? text = some (4, 11) ∧
    (∃ depth, 0 < depth ∧ (Scan.going 0 0).through "(b(ü".toList = .going depth 5) ∧
    Form.of '^' text = .call "a)é(".toList "b(ü)c".toList ")) d(".toList ∧
    Slices field 4 11 "a)é(".toList "b(ü)c".toList ")) d(".toList ∧
    ¬ ∃ start stop, OpensAt unclosed start ∧ start < stop ∧ stop < unclosed.length ∧
      LevelAt unclosed start stop := by
  intro field text unclosed
  obtain ⟨-, spans, scans, encodes, -, slices⟩ := firstSpanFound field
  have found : parenSpan? text = some (3, 9) := by decide
  have span : FirstSpan text 3 9 := (spans 3 9).mp found
  have encoded : Scan.span? text = some (4, 11) := by
    rw [encodes, found]
    decide
  have form : Form.of '^' text = .call "a)é(".toList "b(ü)c".toList ")) d(".toList := by
    decide +kernel
  have within : ∀ closes, parenSpan? text = some (3, closes) → 7 ≤ closes := by
    intro closes same
    obtain ⟨-, rfl⟩ := Prod.mk.inj (Option.some.inj (found.symm.trans same))
    decide
  obtain ⟨depth, opened, -, run⟩ := (scans 3 7 span.opens).2 (by decide) within
  have scanned : (text.take 7).drop 3 = "(b(ü".toList := by decide
  have passed : Text.bytes "(b(ü".toList = 5 := by decide
  rw [scanned, passed] at run
  obtain ⟨first, last, same, parts⟩ := slices '^' _ _ _ form
  obtain ⟨rfl, rfl⟩ := Prod.mk.inj (Option.some.inj (encoded.symm.trans same))
  refine ⟨span, encoded, ⟨depth, opened, run⟩, form, parts, fun level => ?_⟩
  exact absurd ((firstSpanFound "a)é((b)").1.mpr level) (by decide)

end Sqlwright.Identifier
