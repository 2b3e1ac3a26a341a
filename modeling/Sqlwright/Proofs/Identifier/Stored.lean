import Sqlwright.Proofs.Identifier.Cache

/-! What escapes store. While a field is escaped only shorter fields are stored, so the field is
still absent when its own text is, and no entry is ever replaced: whatever was stored is in every
later cache. A run of escapes gives the texts that each would give alone. -/
namespace Sqlwright.Identifier.Cache

theorem insertAbsent {cache : Cache} {rules : Rules} {field : List Char}
    (absent : ∀ entry ∈ cache.entries, entry.answers rules field = false) (text : List Char) :
    (cache.insert rules field text).entries = ⟨rules, field, text⟩ :: cache.entries := by
  have kept : cache.entries.filter (!·.answers rules field) = cache.entries := by
    rw [List.filter_eq_self]
    intro entry member
    rw [absent entry member]
    rfl
  rw [insert, kept]

theorem findAbsent {cache : Cache} {rules : Rules} {field : List Char}
    (absent : cache.find? rules field = none) :
    ∀ entry ∈ cache.entries, entry.answers rules field = false := by
  intro entry member
  have none : cache.entries.find? (·.answers rules field) = none := by
    simpa only [find?, Option.map_eq_none_iff] using absent
  simpa using List.find?_eq_none.mp none entry member

/-- The second cache is the first with new entries in front, under one set of rules and for fields
shorter than `bound`. -/
structure Adds (rules : Rules) (bound : Nat) (before after : Cache) (stored : List Entry) :
    Prop where
  entries : after.entries = stored ++ before.entries
  own : ∀ entry ∈ stored, entry.rules = rules ∧ entry.field.length < bound

namespace Adds

variable {rules : Rules} {bound : Nat} {before after last : Cache} {stored more : List Entry}

theorem refl (rules : Rules) (bound : Nat) (cache : Cache) : Adds rules bound cache cache [] :=
  ⟨rfl, by simp⟩

theorem trans (first : Adds rules bound before after stored)
    (second : Adds rules bound after last more) : Adds rules bound before last (more ++ stored) := by
  refine ⟨by rw [second.entries, first.entries, List.append_assoc], ?_⟩
  intro entry member
  rcases List.mem_append.mp member with new | old
  · exact second.own entry new
  · exact first.own entry old

theorem widen {wide : Nat} (added : Adds rules bound before after stored) (wider : bound ≤ wide) :
    Adds rules wide before after stored := by
  refine ⟨added.entries, ?_⟩
  intro entry member
  obtain ⟨same, short⟩ := added.own entry member
  exact ⟨same, by omega⟩

theorem store {field : List Char} (added : Adds rules field.length before after stored)
    (absent : before.find? rules field = none) (text : List Char) :
    Adds rules (field.length + 1) before (after.insert rules field text)
      (⟨rules, field, text⟩ :: stored) := by
  have still : ∀ entry ∈ after.entries, entry.answers rules field = false := by
    intro entry member
    rw [added.entries] at member
    rcases List.mem_append.mp member with new | old
    · have short := (added.own entry new).2
      have other : entry.field ≠ field := by
        intro same
        rw [same] at short
        omega
      simp [Entry.answers, other]
    · exact findAbsent absent entry old
  refine ⟨by rw [insertAbsent still, added.entries]; rfl, ?_⟩
  intro entry member
  rcases List.mem_cons.mp member with here | inside
  · rw [here]
    exact ⟨rfl, Nat.lt_succ_self _⟩
  · obtain ⟨same, short⟩ := added.own entry inside
    exact ⟨same, by omega⟩

end Adds

theorem escapeCharsAdds (rules : Rules) (field : List Char) (cache : Cache) :
    ∃ stored, Adds rules (field.length + 1) cache (escapeChars rules field cache).2 stored := by
  fun_induction escapeChars rules field cache with
  | case1 field cache left => exact ⟨[], .refl ..⟩
  | case2 field cache left text found => exact ⟨[], .refl ..⟩
  | case3 field cache kept absent text filled step inSource inLabel inCall =>
    have inParts : ∃ stored, Adds rules field.length cache filled stored := by
      split at step <;> rename_i form <;> cases step
      · exact ⟨[], .refl ..⟩
      · obtain ⟨sourceShort, labelShort⟩ := Form.aliasedShorter form
        obtain ⟨first, left⟩ := inSource _ _ form
        obtain ⟨second, right⟩ := inLabel _ _ form _
        exact ⟨_, (left.widen sourceShort).trans (right.widen labelShort)⟩
      · have innerShort := Form.callShorter form
        obtain ⟨stored, inner⟩ := inCall _ _ _ form
        exact ⟨stored, inner.widen innerShort⟩
      · exact ⟨[], .refl ..⟩
    obtain ⟨stored, added⟩ := inParts
    exact ⟨_, added.store absent text⟩

def through (cache : Cache) (calls : List (Rules × String)) : Cache :=
  calls.foldl (fun cache call => (cache.escape call.1 call.2).2) cache

def texts : Cache → List (Rules × String) → List String
  | _, [] => []
  | cache, call :: rest =>
      (cache.escape call.1 call.2).1 :: texts (cache.escape call.1 call.2).2 rest

theorem throughSuffix (cache : Cache) (calls : List (Rules × String)) :
    cache.entries <:+ (cache.through calls).entries := by
  induction calls generalizing cache with
  | nil => exact List.suffix_rfl
  | cons call rest ih =>
    obtain ⟨stored, added⟩ := escapeCharsAdds call.1 call.2.toList cache
    have first : cache.entries <:+ (cache.escape call.1 call.2).2.entries :=
      ⟨stored, added.entries.symm⟩
    exact first.trans (ih _)

theorem afterAppend (calls more : List (Rules × String)) :
    after (calls ++ more) = (after calls).through more :=
  List.foldl_append

theorem textsSound {cache : Cache} (sound : cache.Sound) (calls : List (Rules × String)) :
    cache.texts calls = calls.map fun call => call.1.escape call.2 := by
  induction calls generalizing cache with
  | nil => rfl
  | cons call rest ih =>
    obtain ⟨text, kept⟩ := escapeSound sound call.1 call.2
    rw [texts, List.map_cons, text, ih kept]

end Sqlwright.Identifier.Cache
