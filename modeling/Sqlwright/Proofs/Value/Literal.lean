import Mathlib
import Sqlwright.Proofs.Calendar.Layout
import Sqlwright.Proofs.Statement.Literal

/-! What is left of a value in its literal. A number, a text, bytes, a date and an identifier are
each told by their literals among those of their kind, and so are decimals with their places. Of a
time or a date with a time the literal keeps the second and leaves out what is behind it. Where a
fence follows or nothing, two literals of one kind end at the same place. -/
namespace Sqlwright

namespace Hex

def digitOf (c : Char) : Nat :=
  if c.isDigit then c.toNat - '0'.toNat else c.toUpper.toNat - 'A'.toNat + 10

def read (text : List Char) : Nat := text.foldl (fun number c => 16 * number + digitOf c) 0

theorem readDigits {mark : Char → Char}
    (marks : ∀ digit < 16, digitOf (mark (Nat.digitChar digit)) = digit) (n : Nat) :
    read ((Nat.toDigits 16 n).map mark) = n := by
  induction n using Nat.strongRecOn with
  | ind n ih =>
    rw [Nat.toDigits_eq_if (by decide)]
    split
    · rename_i small
      simpa [read] using marks n small
    · have rest := ih (n / 16) (by omega)
      have last := marks (n % 16) (Nat.mod_lt n (by decide))
      unfold read at rest ⊢
      rw [List.map_append, List.foldl_append, rest, List.map_singleton, List.foldl_cons,
        List.foldl_nil, last]
      omega

theorem memDigits {n : Nat} {c : Char} (member : c ∈ Nat.toDigits 16 n) :
    ∃ digit < 16, c = Nat.digitChar digit := by
  induction n using Nat.strongRecOn with
  | ind n ih =>
    rw [Nat.toDigits_eq_if (by decide)] at member
    split at member
    · rename_i small
      exact ⟨n, small, List.mem_singleton.mp member⟩
    · rcases List.mem_append.mp member with earlier | last
      · exact ih (n / 16) (by omega) earlier
      · exact ⟨n % 16, Nat.mod_lt n (by decide), List.mem_singleton.mp last⟩

theorem readFilled (count : Nat) (text : List Char) :
    read (List.replicate count '0' ++ text) = read text := by
  have zeros : (List.replicate count '0').foldl
      (fun number c => 16 * number + digitOf c) 0 = 0 := by
    induction count with
    | zero => rfl
    | succ count ih => exact ih
  rw [read, List.foldl_append, zeros, read]

end Hex

section Bytes

theorem byteRead (b : UInt8) : Hex.read (upperByte b) = b.toNat := by
  rw [upperByte, Hex.readFilled, Hex.readDigits (by decide)]

theorem byteSame {b other : UInt8} : upperByte b = upperByte other ↔ b = other := by
  refine ⟨fun same => ?_, congrArg upperByte⟩
  rw [← UInt8.toNat_inj, ← byteRead, same, byteRead]

theorem byteWidth (b : UInt8) : (upperByte b).length = 2 := by
  have short := (@Nat.length_toDigits_le_iff 16 _ 2 (by decide) (by decide)).mpr b.toNat_lt
  have some := @Nat.length_toDigits_pos 16 b.toNat
  simp only [upperByte, List.length_append, List.length_replicate, List.length_map]
  omega

theorem bytesSame {bytes other : List UInt8} :
    bytes.flatMap upperByte = other.flatMap upperByte ↔ bytes = other := by
  refine ⟨fun same => ?_, congrArg (List.flatMap upperByte)⟩
  have written (b : UInt8) (rest : List UInt8) : (b :: rest).flatMap upperByte ≠ [] := by
    intro none
    have width := byteWidth b
    rw [(List.append_eq_nil_iff.mp none).1] at width
    cases width
  induction bytes generalizing other with
  | nil =>
    cases other with
    | nil => rfl
    | cons b rest => exact absurd same.symm (written b rest)
  | cons b rest ih =>
    cases other with
    | nil => exact absurd same (written b rest)
    | cons c later =>
      simp only [List.flatMap_cons] at same
      obtain ⟨first, behind⟩ := List.append_inj same (by rw [byteWidth, byteWidth])
      rw [byteSame.mp first, ih behind]

end Bytes

namespace Uuid

variable {u other : Uuid}

theorem digitsRead (u : Uuid) : Hex.read u.hexDigits = u.bits.toNat := by
  have digits := @Hex.readDigits id (by decide) u.bits.toNat
  rw [List.map_id] at digits
  rw [hexDigits, Hex.readFilled, digits]

theorem digitsWidth (u : Uuid) : u.hexDigits.length = 32 := by
  have short := (@Nat.length_toDigits_le_iff 16 _ 32 (by decide) (by decide)).mpr
    u.bits.isLt
  simp only [hexDigits, List.length_append, List.length_replicate]
  omega

theorem textGroups (u : Uuid) : ∃ a b c d e : List Char,
    u.hexDigits = a ++ (b ++ (c ++ (d ++ e))) ∧
    u.text.toList = a ++ '-' :: (b ++ '-' :: (c ++ '-' :: (d ++ '-' :: e))) := by
  have width := u.digitsWidth
  have written : u.text = String.intercalate "-" [String.ofList ((u.hexDigits.drop 0).take 8),
      String.ofList ((u.hexDigits.drop 8).take 4), String.ofList ((u.hexDigits.drop 12).take 4),
      String.ofList ((u.hexDigits.drop 16).take 4),
      String.ofList ((u.hexDigits.drop 20).take 12)] := rfl
  generalize u.hexDigits = digits at width written ⊢
  have cut (start size : Nat) :
      digits.drop start = (digits.drop start).take size ++ digits.drop (start + size) := by
    rw [← List.drop_drop, List.take_append_drop]
  have last : (digits.drop 20).take 12 = digits.drop 20 :=
    List.take_of_length_le (by rw [List.length_drop]; omega)
  refine ⟨(digits.drop 0).take 8, (digits.drop 8).take 4, (digits.drop 12).take 4,
    (digits.drop 16).take 4, (digits.drop 20).take 12, ?_, ?_⟩
  · rw [last, ← cut 16 4, ← cut 12 4, ← cut 8 4, ← cut 0 8, List.drop_zero]
  · rw [written]
    simp

theorem digitsOfText (u : Uuid) : u.text.toList.filter (· ≠ '-') = u.hexDigits := by
  have plain : u.hexDigits.filter (· ≠ '-') = u.hexDigits := by
    rw [List.filter_eq_self]
    intro c member
    rw [decide_eq_true_iff]
    rintro rfl
    rcases List.mem_append.mp member with filling | digit
    · exact absurd (List.eq_of_mem_replicate filling) (by decide)
    · obtain ⟨value, small, own⟩ := Hex.memDigits digit
      have marks : ∀ value < 16, '-' ≠ Nat.digitChar value := by decide
      exact marks value small own
  have hyphen (rest : List Char) :
      ('-' :: rest).filter (· ≠ '-') = rest.filter (· ≠ '-') := List.filter_cons_of_neg (by decide)
  obtain ⟨a, b, c, d, e, digits, written⟩ := u.textGroups
  rw [← plain, written, digits]
  simp only [List.filter_append, hyphen]

theorem textSame : u.text = other.text ↔ u = other := by
  refine ⟨fun same => ?_, congrArg text⟩
  have digits : u.hexDigits = other.hexDigits := by rw [← digitsOfText, same, digitsOfText]
  have bits : u.bits = other.bits := by
    apply BitVec.eq_of_toNat_eq
    rw [← digitsRead, digits, digitsRead]
  cases u
  cases other
  exact congrArg mk bits

end Uuid

namespace Decimal

variable {d other : Decimal}

theorem magnitudeSplits (magnitude scale : Nat) : ∃ whole fraction,
    padded (scale + 1) magnitude = whole ++ fraction ∧ fraction.length = scale ∧
      magnitudeText magnitude scale = whole ++ if scale = 0 then [] else '.' :: fraction := by
  have written : magnitudeText magnitude scale =
      let filled := padded (scale + 1) magnitude
      let point := filled.length - scale
      if scale = 0 then filled else filled.take point ++ '.' :: filled.drop point := rfl
  have wide : scale < (padded (scale + 1) magnitude).length := by
    rw [padded, List.length_append, List.length_replicate]
    omega
  generalize padded (scale + 1) magnitude = filled at written wide ⊢
  refine ⟨filled.take (filled.length - scale), filled.drop (filled.length - scale),
    (List.take_append_drop _ _).symm, by rw [List.length_drop]; omega, ?_⟩
  rw [written]
  by_cases none : scale = 0 <;> simp [none]

variable {magnitude scale : Nat}

theorem magnitudeDigits :
    (magnitudeText magnitude scale).filter Char.isDigit = padded (scale + 1) magnitude := by
  obtain ⟨whole, fraction, digits, places, written⟩ := magnitudeSplits magnitude scale
  have all := List.filter_eq_self.mpr (@paddedDigits (scale + 1) magnitude)
  rw [digits, List.filter_append] at all
  rw [written, digits, ← all, List.filter_append]
  by_cases none : scale = 0
  · rw [none, List.length_eq_zero_iff] at places
    simp [none, places]
  · rw [if_neg none, List.filter_cons_of_neg (by decide)]

theorem magnitudePlaces :
    ((magnitudeText magnitude scale).dropWhile (· ≠ '.')).tail.length = scale := by
  obtain ⟨whole, fraction, digits, places, written⟩ := magnitudeSplits magnitude scale
  have pointless : ∀ c ∈ whole, decide (c ≠ '.') = true := by
    intro c member
    rw [decide_eq_true_iff]
    rintro rfl
    have digit := paddedDigits '.' (digits ▸ List.mem_append_left fraction member)
    exact absurd digit (by decide)
  rw [written, List.dropWhile_append_of_pos pointless]
  by_cases none : scale = 0
  · simp [none]
  · rw [if_neg none, List.dropWhile_cons_of_neg (by decide), List.tail_cons, places]

theorem memMagnitude {c : Char} (member : c ∈ magnitudeText magnitude scale) :
    c.isDigit = true ∨ c = '.' := by
  obtain ⟨whole, fraction, digits, places, written⟩ := magnitudeSplits magnitude scale
  have digit (part : c ∈ whole ++ fraction) : c.isDigit = true := paddedDigits c (digits ▸ part)
  rw [written] at member
  by_cases none : scale = 0
  · exact .inl (digit (List.mem_append_left fraction (by simpa [none] using member)))
  · simp only [if_neg none, List.mem_append, List.mem_cons] at member digit
    tauto

theorem textDigits (d : Decimal) :
    d.text.toList.filter Char.isDigit = padded (d.scale + 1) d.mantissa.natAbs := by
  unfold text
  split <;> simp [magnitudeDigits]

theorem textPlaces (d : Decimal) :
    (d.text.toList.dropWhile (· ≠ '.')).tail.length = d.scale := by
  unfold text
  split <;> simpa using @magnitudePlaces d.mantissa.natAbs d.scale

theorem textSign : '-' ∈ d.text.toList ↔ d.mantissa < 0 := by
  unfold text
  rw [String.toList_ofList]
  split
  · exact iff_of_true List.mem_cons_self (by assumption)
  · refine iff_of_false (fun member => ?_) (by assumption)
    rcases memMagnitude member with digit | point
    · exact absurd digit (by decide)
    · exact absurd point (by decide)

theorem textSame : d.text = other.text ↔ d = other := by
  refine ⟨fun same => ?_, congrArg text⟩
  have size : d.mantissa.natAbs = other.mantissa.natAbs := by
    rw [← paddedRead (d.scale + 1) d.mantissa.natAbs, ← textDigits, same, textDigits, paddedRead]
  have sign : d.mantissa < 0 ↔ other.mantissa < 0 := by rw [← textSign, same, textSign]
  have mantissa : d.mantissa = other.mantissa := by omega
  have scale : d.scale = other.scale := by rw [← textPlaces, same, textPlaces]
  cases d
  cases other
  simp_all

end Decimal

namespace Value

/-- Two values of one kind, of those kinds that differ in nothing but what they hold. -/
inductive SameKind : Value → Value → Prop where
  | int (n m : Int64) : SameKind (.int n) (.int m)
  | string (text other : String) : SameKind (.string text) (.string other)
  | bytes (bytes other : List UInt8) : SameKind (.bytes bytes) (.bytes other)
  | date (d e : Date) : SameKind (.date d) (.date e)
  | time (t u : Time) : SameKind (.time t) (.time u)
  | dateTime (dt other : DateTime) : SameKind (.dateTime dt) (.dateTime other)
  | uuid (u other : Uuid) : SameKind (.uuid u) (.uuid other)
  | decimal (d e : Decimal) : SameKind (.decimal d) (.decimal e)

/-- One value, or two times or two dates with a time that a clock shows alike. -/
inductive ShownAlike : Value → Value → Prop where
  | same (value : Value) : ShownAlike value value
  | time {t u : Time} (shown : t.shown = u.shown) : ShownAlike (.time t) (.time u)
  | dateTime {dt other : DateTime} (shown : dt.shown = other.shown) :
      ShownAlike (.dateTime dt) (.dateTime other)

variable {config : Config} {mark : Char} {value other : Value}

theorem literalOfShown (config : Config) (alike : value.ShownAlike other) :
    value.literal config = other.literal config := by
  cases alike with
  | same => rfl
  | time shown => exact congrArg config.quoted (Time.textSame.mpr shown)
  | dateTime shown => exact congrArg config.quoted (DateTime.textSame.mpr shown)

theorem literalSame (doubles : config.DoublesQuote mark) (kind : value.SameKind other) :
    value.literal config = other.literal config ↔ value.ShownAlike other := by
  refine ⟨fun same => ?_, literalOfShown config⟩
  cases kind with
  | int n m =>
    rw [literal, literal, Int.toString_eq_repr, Int.toString_eq_repr, Int.repr_inj,
      Int64.toInt_inj] at same
    exact same ▸ .same _
  | string text other => exact doubles.quotedSame.mp same ▸ .same _
  | bytes bytes other =>
    rw [literal, literal, String.append_right_inj, String.ofList_inj, bytesSame] at same
    exact same ▸ .same _
  | date d e => exact Date.textSame.mp (doubles.quotedSame.mp same) ▸ .same _
  | time t u => exact .time (Time.textSame.mp (doubles.quotedSame.mp same))
  | dateTime dt other => exact .dateTime (DateTime.textSame.mp (doubles.quotedSame.mp same))
  | uuid u other => exact Uuid.textSame.mp (doubles.quotedSame.mp same) ▸ .same _
  | decimal d e => exact Decimal.textSame.mp same ▸ .same _

end Value

theorem Piece.cutAtFence {text other rest more : List Char} (free : ∀ c ∈ text, c ∉ fences)
    (otherFree : ∀ c ∈ other, c ∉ fences) (fenced : ∀ c ∈ rest.head?, c ∈ fences)
    (otherFenced : ∀ c ∈ more.head?, c ∈ fences) (same : text ++ rest = other ++ more) :
    text = other := by
  have cut {text rest : List Char} (free : ∀ c ∈ text, c ∉ fences)
      (fenced : ∀ c ∈ rest.head?, c ∈ fences) :
      (text ++ rest).takeWhile (fun c => decide (c ∉ fences)) = text := by
    rw [List.takeWhile_append_of_pos fun c member => decide_eq_true (free c member)]
    cases rest with
    | nil => exact List.append_nil text
    | cons c behind =>
      have fence := fenced c rfl
      rw [List.takeWhile_cons_of_neg (by simpa using fence), List.append_nil]
  rw [← cut free fenced, same, cut otherFree otherFenced]

namespace Value

def Unfenced (config : Config) (value : Value) : Prop :=
  ∀ c ∈ (value.literal config).toList, c ∉ Piece.fences

theorem unfencedDigit {c : Char} (digit : c.isDigit = true) : c ∉ Piece.fences := by
  have none : ∀ fence ∈ Piece.fences, fence.isDigit = false := by simp [Piece.fences]
  intro fence
  rw [none c fence] at digit
  cases digit

theorem unfencedInt (config : Config) (n : Int64) : (Value.int n).Unfenced config := by
  have natural (m : Nat) : ∀ c ∈ m.repr.toList, c ∉ Piece.fences := by
    intro c member
    rw [Nat.toList_repr] at member
    have digit : c.isDigit = true :=
      Nat.isDigit_of_mem_toDigits (by decide) (by decide) member
    exact unfencedDigit digit
  rw [Unfenced, literal, Int.toString_eq_repr]
  cases n.toInt with
  | ofNat m => exact natural m
  | negSucc m =>
    intro c member
    rcases List.mem_append.mp (String.toList_append ▸ member) with sign | digit
    · rw [List.mem_singleton.mp sign]
      decide
    · exact natural (m + 1) c digit

theorem unfencedBytes (config : Config) (bytes : List UInt8) :
    (Value.bytes bytes).Unfenced config := by
  have lead : ∀ c ∈ "0x".toList, c ∉ Piece.fences := by simp [Piece.fences]
  have marks : ∀ digit < 16, (Nat.digitChar digit).toUpper ∉ Piece.fences := by decide
  intro c member
  simp only [literal, String.toList_append, String.toList_ofList] at member
  rcases List.mem_append.mp member with opening | digit
  · exact lead c opening
  · obtain ⟨b, -, here⟩ := List.mem_flatMap.mp digit
    rcases List.mem_append.mp here with filling | own
    · rw [List.eq_of_mem_replicate filling]
      decide
    · obtain ⟨d, written, rfl⟩ := List.mem_map.mp own
      obtain ⟨value, small, rfl⟩ := Hex.memDigits written
      exact marks value small

theorem unfencedDecimal (config : Config) (d : Decimal) : (Value.decimal d).Unfenced config := by
  have magnitude {c : Char} (member : c ∈ Decimal.magnitudeText d.mantissa.natAbs d.scale) :
      c ∉ Piece.fences := by
    rcases Decimal.memMagnitude member with digit | point
    · exact unfencedDigit digit
    · rw [point]
      decide
  intro c member
  simp only [literal, Decimal.text, String.toList_ofList] at member
  split at member
  · rcases List.mem_cons.mp member with sign | behind
    · rw [sign]
      decide
    · exact magnitude behind
  · exact magnitude member

variable {config : Config} {mark : Char} {value other : Value}

theorem quotedEnds (doubles : config.DoublesQuote mark) (unfenced : mark ∉ Piece.fences)
    {text another : String} {rest more : List Char} (fenced : ∀ c ∈ rest.head?, c ∈ Piece.fences)
    (otherFenced : ∀ c ∈ more.head?, c ∈ Piece.fences)
    (same : (config.quoted text).toList ++ rest = (config.quoted another).toList ++ more) :
    config.quoted text = config.quoted another := by
  have first := (doubles.read text rest).mpr fun starts => unfenced (fenced mark starts)
  have second := (doubles.read another more).mpr fun starts => unfenced (otherFenced mark starts)
  rw [same, second, Option.some.injEq, Prod.mk.injEq, String.toList_inj] at first
  rw [first.1]

theorem literalEnds (doubles : config.DoublesQuote mark) (unfenced : mark ∉ Piece.fences)
    (kind : value.SameKind other) {rest more : List Char}
    (fenced : ∀ c ∈ rest.head?, c ∈ Piece.fences)
    (otherFenced : ∀ c ∈ more.head?, c ∈ Piece.fences)
    (same : (value.literal config).toList ++ rest = (other.literal config).toList ++ more) :
    value.literal config = other.literal config := by
  -- A text ends at its own quote, a number and bytes before the first fence.
  have plain (free : value.Unfenced config) (otherFree : other.Unfenced config) :
      value.literal config = other.literal config :=
    String.toList_inj.mp (Piece.cutAtFence free otherFree fenced otherFenced same)
  cases kind with
  | int n m => exact plain (unfencedInt config n) (unfencedInt config m)
  | bytes bytes others => exact plain (unfencedBytes config bytes) (unfencedBytes config others)
  | decimal d e => exact plain (unfencedDecimal config d) (unfencedDecimal config e)
  | _ => exact quotedEnds doubles unfenced fenced otherFenced same

end Value

end Sqlwright
