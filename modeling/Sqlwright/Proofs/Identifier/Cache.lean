import Sqlwright.Identifier.Cache

/-! A cache that has only ever been filled by escaping answers every field as if there were no
cache. The parts of a field are kept while the field itself is being escaped, so the invariant
goes through the recursion that fills the cache. -/
namespace Sqlwright.Identifier.Cache

def Sound (cache : Cache) : Prop :=
  ∀ entry ∈ cache.entries, entry.text = entry.rules.escapeChars entry.field

theorem soundEmpty : Sound empty := by
  intro entry member
  simp [empty] at member

theorem soundInsert {cache : Cache} (sound : cache.Sound) (rules : Rules) (field : List Char) :
    (cache.insert rules field (rules.escapeChars field)).Sound := by
  intro entry member
  rcases memInsert.mp member with same | ⟨old, _⟩
  · rw [same]
  · exact sound entry old

theorem findSound {cache : Cache} (sound : cache.Sound) {rules : Rules} {field text : List Char}
    (found : cache.find? rules field = some text) : text = rules.escapeChars field := by
  obtain ⟨entry, here, same⟩ := Option.map_eq_some_iff.mp found
  have answers : entry.rules = rules ∧ entry.field = field := by
    simpa [Entry.answers] using List.find?_some here
  have kept := sound entry (List.mem_of_find?_eq_some here)
  rw [← same, kept, answers.1, answers.2]

theorem escapeCharsSound (rules : Rules) (field : List Char) (cache : Cache)
    (sound : cache.Sound) :
    (escapeChars rules field cache).1 = rules.escapeChars field ∧
      (escapeChars rules field cache).2.Sound := by
  fun_induction escapeChars rules field cache with
  | case1 field cache left => exact ⟨by rw [Rules.escapeChars, if_pos left], sound⟩
  | case2 field cache left text found => exact ⟨findSound sound found, sound⟩
  | case3 field cache kept absent text filled step inParts inLabel inCall =>
    -- whatever the form, its parts were escaped in sound caches, each left by the part before
    have computed : text = rules.escapeChars field ∧ filled.Sound := by
      split at step <;> rename_i form <;> cases step
      · exact ⟨by rw [Rules.escapeChars, if_neg kept, form], sound⟩
      · obtain ⟨left, leftSound⟩ := inParts _ _ form sound
        obtain ⟨right, rightSound⟩ := inLabel _ _ form _ leftSound
        exact ⟨by rw [left, right, Rules.escapeChars.eq_def rules field, if_neg kept, form],
          rightSound⟩
      · obtain ⟨inner, innerSound⟩ := inCall _ _ _ form sound
        exact ⟨by rw [inner, Rules.escapeChars.eq_def rules field, if_neg kept, form],
          innerSound⟩
      · exact ⟨by rw [Rules.escapeChars, if_neg kept, form], sound⟩
    exact ⟨computed.1, computed.1 ▸ soundInsert computed.2 rules field⟩

theorem escapeSound {cache : Cache} (sound : cache.Sound) (rules : Rules) (field : String) :
    (cache.escape rules field).1 = rules.escape field ∧ (cache.escape rules field).2.Sound := by
  obtain ⟨text, filled⟩ := escapeCharsSound rules field.toList cache sound
  exact ⟨congrArg String.ofList text, filled⟩

def after (calls : List (Rules × String)) : Cache :=
  calls.foldl (fun cache call => (cache.escape call.1 call.2).2) empty

theorem afterSound (calls : List (Rules × String)) : (after calls).Sound := by
  have keeps : ∀ cache : Cache, cache.Sound →
      (calls.foldl (fun cache call => (cache.escape call.1 call.2).2) cache).Sound := by
    induction calls with
    | nil => exact fun _ sound => sound
    | cons call rest ih => exact fun _ sound => ih _ (escapeSound sound call.1 call.2).2
  exact keeps empty soundEmpty

theorem escapeAfter (calls : List (Rules × String)) (rules : Rules) (field : String) :
    ((after calls).escape rules field).1 = rules.escape field :=
  (escapeSound (afterSound calls) rules field).1

end Sqlwright.Identifier.Cache
