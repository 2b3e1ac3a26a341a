import Sqlwright.Proofs.Identifier.Span

/-! The scan for matched parentheses, one character after another. It counts the bytes it passes as
well as the parentheses it has open, and it would break at one that is closed when none is open. From
the first parenthesis on it does not, and it stops at the byte of the one that closes it. -/
namespace Sqlwright

namespace Text

def bytes : List Char → Nat
  | [] => 0
  | c :: rest => c.utf8Size + bytes rest

theorem bytesAppend (first second : List Char) :
    bytes (first ++ second) = bytes first + bytes second := by
  induction first with
  | nil => exact (Nat.zero_add _).symm
  | cons c rest ih => rw [List.cons_append, bytes, bytes, ih, Nat.add_assoc]

theorem bytesEncoded (text : List Char) : text.utf8Encode.size = bytes text := by
  induction text with
  | nil => rfl
  | cons c rest ih =>
    rw [List.utf8Encode_cons, ByteArray.size_append, ih, List.utf8Encode_singleton,
      List.size_toByteArray, String.length_utf8EncodeChar, bytes]

def byteAt (text : List Char) (position : Nat) : Nat := bytes (text.take position)

theorem byteAtAdd (text : List Char) (first second : Nat) :
    byteAt text (first + second) = byteAt text first + byteAt (text.drop first) second := by
  rw [byteAt, List.take_add, bytesAppend]
  rfl

theorem extractBetween (first middle last : List Char) :
    (first ++ middle ++ last).utf8Encode.extract (bytes first) (bytes (first ++ middle)) =
      middle.utf8Encode := by
  have none : first.utf8Encode.extract (bytes first) (bytes first + bytes middle) = .empty := by
    rw [ByteArray.extract_eq_empty_iff, bytesEncoded]
    exact Nat.min_le_right _ _
  rw [List.append_assoc, List.utf8Encode_append, List.utf8Encode_append, bytesAppend,
    ByteArray.extract_append, none, ByteArray.empty_append, bytesEncoded, Nat.sub_self,
    Nat.add_sub_cancel_left, ByteArray.extract_append_eq_left (bytesEncoded middle).symm]

end Text

namespace Identifier
open Text (bytes byteAt)

/-- A scan that goes on, with the parentheses it has open and the bytes it has passed; one that has
stopped at the byte of the closing parenthesis; or one that broke, since none was open there. -/
inductive Scan where
  | going (depth passed : Nat)
  | stopped (passed : Nat)
  | broken
  deriving DecidableEq, Repr

namespace Scan

def next : Scan → Char → Scan
  | going depth passed, c =>
      if c = '(' then going (depth + 1) (passed + c.utf8Size)
      else if c = ')' then
        if depth = 0 then broken
        else if depth - 1 = 0 then stopped passed
        else going (depth - 1) (passed + c.utf8Size)
      else going depth (passed + c.utf8Size)
  | stopped passed, _ => stopped passed
  | broken, _ => broken

def through (scan : Scan) (text : List Char) : Scan := text.foldl next scan

def place? : Scan → Option Nat
  | stopped passed => some passed
  | _ => none

def span? (field : List Char) : Option (Nat × Nat) :=
  match field.idxOf? '(' with
  | none => none
  | some opens =>
      ((going 0 0).through (field.drop opens)).place?.map fun passed =>
        (byteAt field opens, byteAt field opens + passed)

theorem nextCounts {depth deeper passed : Nat} {c : Char} (counts : Counts depth c deeper)
    (opened : 0 < deeper) :
    (going depth passed).next c = going deeper (passed + c.utf8Size) := by
  rw [next]
  split
  · rename_i opens
    have same : deeper = depth + 1 := by simpa [Counts, opens] using counts
    rw [same]
  · split
    · rename_i shuts
      have same : deeper + 1 = depth := by simpa [Counts, shuts] using counts
      rw [if_neg (by omega), if_neg (by omega), show depth - 1 = deeper by omega]
    · rename_i opens shuts
      have same : deeper = depth := by simpa [Counts, opens, shuts] using counts
      rw [same]

theorem throughStopped (passed : Nat) (text : List Char) :
    (stopped passed).through text = stopped passed := by
  induction text with
  | nil => rfl
  | cons c rest ih => exact ih

theorem throughCons (scan : Scan) (c : Char) (rest : List Char) :
    scan.through (c :: rest) = (scan.next c).through rest := rfl

theorem throughOpen {depth : Nat} {text : List Char} (stays : StaysOpen depth text)
    (passed : Nat) :
    ∃ deeper, 0 < deeper ∧ deeper + text.count ')' = depth + text.count '(' ∧
      (going depth passed).through text = going deeper (passed + bytes text) := by
  induction text generalizing depth passed with
  | nil => exact ⟨depth, by simpa using stays [] List.nil_prefix, rfl, rfl⟩
  | cons c rest ih =>
    obtain ⟨_, inner, counts, later⟩ := staysOpenCons.mp stays
    obtain ⟨deeper, opened, level, run⟩ := ih later (passed + c.utf8Size)
    refine ⟨deeper, opened, ?_, ?_⟩
    · rw [Counts] at counts
      rw [← List.singleton_append, List.count_append, List.count_append]
      omega
    · have above : 0 < inner := by simpa using later [] List.nil_prefix
      rw [throughCons, nextCounts counts above, run, bytes, Nat.add_assoc]

theorem throughClosing {depth : Nat} (opened : 0 < depth) (passed : Nat) (text : List Char) :
    (going depth passed).through text ≠ broken ∧
    ((going depth passed).through text).place? =
      (closing? depth text).map fun closes => passed + byteAt text closes := by
  induction text generalizing depth passed with
  | nil => exact ⟨Scan.noConfusion, rfl⟩
  | cons c rest ih =>
    rw [throughCons]
    rcases closesOrCounts opened c with ⟨rfl, rfl⟩ | ⟨deeper, above, counts⟩
    · rw [show (going 1 passed).next ')' = stopped passed from rfl, throughStopped]
      exact ⟨Scan.noConfusion, rfl⟩
    · rw [nextCounts counts above, closingCounts counts above, Option.map_map]
      refine ⟨(ih above _).1, (ih above _).2.trans ?_⟩
      congr 1
      funext closes
      simp only [Function.comp_apply, byteAt, List.take_succ_cons, bytes, Nat.add_assoc]

theorem spanBytes (field : List Char) :
    span? field = (parenSpan? field).map fun ends => (byteAt field ends.1, byteAt field ends.2) := by
  unfold span? parenSpan?
  cases first : field.idxOf? '(' with
  | none => rfl
  | some opens =>
    obtain ⟨short, parenthesis, _⟩ := List.idxOf?_eq_some_iff.mp first
    have lifted : Counts 0 '(' 1 := by simp [Counts]
    have run : ((going 0 0).through (field.drop opens)).place? =
        (closing? 0 (field.drop opens)).map fun closes => byteAt (field.drop opens) closes := by
      rw [List.drop_eq_getElem_cons short, parenthesis, throughCons, nextCounts lifted Nat.one_pos,
        closingCounts lifted Nat.one_pos, (throughClosing Nat.one_pos _ _).2, Option.map_map]
      simp only [Function.comp_def, byteAt, List.take_succ_cons, bytes, Nat.zero_add]
    simp only [run, Option.map_map]
    congr 1
    funext closes
    simp only [Function.comp_apply, Text.byteAtAdd]

end Scan

end Identifier

end Sqlwright
