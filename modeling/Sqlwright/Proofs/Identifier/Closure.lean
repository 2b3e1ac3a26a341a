import Mathlib
import Sqlwright.Proofs.Identifier.Stored

/-! Which fields a cache keeps. Escaping a field keeps it and, where it has parts that are escaped,
what escaping them keeps. A field that is found is not taken apart again, so the keys of a cache have
to be closed: with every field that is kept go all those that its escape would keep. -/
namespace Sqlwright.Identifier

abbrev Key := Rules × List Char

def Rules.closure (rules : Rules) (field : List Char) : List Key :=
  if rules.leaves field then []
  else
    (rules, field) ::
      match _ : Form.of rules.bypass field with
      | .verbatim _ => []
      | .aliased source label => rules.closure source ++ rules.closure label
      | .call _ inner _ => rules.closure inner
      | .dotted .. => []
termination_by field.length
decreasing_by
  · exact (Form.aliasedShorter ‹_›).1
  · exact (Form.aliasedShorter ‹_›).2
  · exact Form.callShorter ‹_›

namespace Cache

def keys (cache : Cache) : List Key := cache.entries.map fun entry => (entry.rules, entry.field)

theorem memKeysInsert {cache : Cache} {rules : Rules} {field text : List Char} {key : Key} :
    key ∈ (cache.insert rules field text).keys ↔ key = (rules, field) ∨ key ∈ cache.keys := by
  simp only [keys, List.mem_map, memInsert]
  constructor
  · rintro ⟨entry, rfl | ⟨old, _⟩, rfl⟩
    · exact .inl rfl
    · exact .inr ⟨entry, old, rfl⟩
  · rintro (rfl | ⟨entry, old, rfl⟩)
    · exact ⟨⟨rules, field, text⟩, .inl rfl, rfl⟩
    · by_cases same : entry.rules = rules ∧ entry.field = field
      · exact ⟨⟨rules, field, text⟩, .inl rfl, by rw [same.1, same.2]⟩
      · exact ⟨entry, .inr ⟨old, by tauto⟩, rfl⟩

theorem findKey {cache : Cache} {rules : Rules} {field text : List Char}
    (found : cache.find? rules field = some text) : (rules, field) ∈ cache.keys := by
  obtain ⟨entry, here, _⟩ := Option.map_eq_some_iff.mp found
  have answers : entry.rules = rules ∧ entry.field = field := by
    simpa [Entry.answers] using List.find?_some here
  exact List.mem_map.mpr ⟨entry, List.mem_of_find?_eq_some here, by rw [answers.1, answers.2]⟩

structure Closed (cache : Cache) : Prop where
  distinct : cache.keys.Nodup
  parts : ∀ key ∈ cache.keys, key.1.closure key.2 ⊆ cache.keys

theorem closedEmpty : empty.Closed := ⟨List.nodup_nil, by simp [keys, empty]⟩

theorem distinctInsert {cache : Cache} (distinct : cache.keys.Nodup) (rules : Rules)
    (field text : List Char) : (cache.insert rules field text).keys.Nodup := by
  rw [keys, insert, List.map_cons, List.nodup_cons]
  refine ⟨?_, distinct.sublist (List.filter_sublist.map _)⟩
  intro member
  obtain ⟨entry, other, same⟩ := List.mem_map.mp member
  obtain ⟨rfl, rfl⟩ := Prod.mk.inj same
  simp [Entry.answers] at other

structure Gains (before after : Cache) (gained : List Key) : Prop where
  closed : after.Closed
  keys : ∀ key, key ∈ after.keys ↔ key ∈ before.keys ∨ key ∈ gained

namespace Gains

variable {before after last : Cache} {gained more : List Key}

theorem refl {cache : Cache} (closed : cache.Closed) : Gains cache cache [] :=
  ⟨closed, by simp⟩

theorem trans (first : Gains before after gained) (second : Gains after last more) :
    Gains before last (gained ++ more) := by
  refine ⟨second.closed, fun key => ?_⟩
  rw [second.keys, first.keys, List.mem_append, or_assoc]

theorem store {rules : Rules} {field : List Char} (gains : Gains before after gained)
    (whole : rules.closure field = (rules, field) :: gained) (text : List Char) :
    Gains before (after.insert rules field text) (rules.closure field) := by
  have kept : ∀ key, key ∈ (after.insert rules field text).keys ↔
      key ∈ before.keys ∨ key ∈ rules.closure field := by
    intro key
    rw [memKeysInsert, gains.keys, whole, List.mem_cons, or_left_comm]
  refine ⟨⟨distinctInsert gains.closed.distinct rules field text, ?_⟩, kept⟩
  intro key member part inside
  rcases memKeysInsert.mp member with rfl | old
  · exact (kept part).mpr (.inr inside)
  · exact memKeysInsert.mpr (.inr (gains.closed.parts key old inside))

end Gains

theorem escapeCharsGains (rules : Rules) (field : List Char) (cache : Cache)
    (closed : cache.Closed) :
    Gains cache (escapeChars rules field cache).2 (rules.closure field) := by
  fun_induction escapeChars rules field cache with
  | case1 field cache left =>
    rw [Rules.closure, if_pos left]
    exact .refl closed
  | case2 field cache left text found =>
    refine ⟨closed, fun key => (or_iff_left_of_imp fun part => ?_).symm⟩
    exact closed.parts _ (findKey found) part
  | case3 field cache kept absent text filled step inSource inLabel inCall =>
    split at step <;> rename_i form <;> cases step
    · exact (Gains.refl closed).store
        (by rw [Rules.closure.eq_def, if_neg kept, form]) text
    · have left := inSource _ _ form closed
      have right := inLabel _ _ form _ left.closed
      exact (left.trans right).store
        (by rw [Rules.closure.eq_def rules field, if_neg kept, form]) _
    · exact (inCall _ _ _ form closed).store
        (by rw [Rules.closure.eq_def rules field, if_neg kept, form]) _
    · exact (Gains.refl closed).store
        (by rw [Rules.closure.eq_def, if_neg kept, form]) _

theorem throughGains {cache : Cache} (closed : cache.Closed) (calls : List (Rules × String)) :
    Gains cache (cache.through calls)
      (calls.flatMap fun call => call.1.closure call.2.toList) := by
  induction calls generalizing cache with
  | nil => exact .refl closed
  | cons call rest ih =>
    have first := escapeCharsGains call.1 call.2.toList cache closed
    rw [List.flatMap_cons]
    exact first.trans (ih first.closed)

theorem afterGains (calls : List (Rules × String)) :
    Gains empty (after calls) (calls.flatMap fun call => call.1.closure call.2.toList) :=
  throughGains closedEmpty calls

theorem memAfter {calls : List (Rules × String)} {key : Key} :
    key ∈ (after calls).keys ↔ ∃ call ∈ calls, key ∈ call.1.closure call.2.toList := by
  have none : key ∉ empty.keys := List.not_mem_nil
  rw [(afterGains calls).keys, or_iff_right none, List.mem_flatMap]

theorem sizeKeys (cache : Cache) : cache.size = cache.keys.length := (List.length_map _).symm

theorem Closed.sizeSame {cache other : Cache} (closed : cache.Closed) (second : other.Closed)
    (same : ∀ key, key ∈ cache.keys ↔ key ∈ other.keys) : cache.size = other.size := by
  rw [sizeKeys, sizeKeys]
  exact ((List.perm_ext_iff_of_nodup closed.distinct second.distinct).mpr same).length_eq

theorem sizeOfCalls {calls others : List (Rules × String)}
    (same : ∀ call, call ∈ calls ↔ call ∈ others) : (after calls).size = (after others).size := by
  refine (afterGains calls).closed.sizeSame (afterGains others).closed fun key => ?_
  rw [memAfter, memAfter]
  exact exists_congr fun call => and_congr_left fun _ => same call

theorem afterAgain {calls again : List (Rules × String)} (earlier : again ⊆ calls) :
    after (calls ++ again) = after calls := by
  have same : (after calls).size = (after (calls ++ again)).size :=
    sizeOfCalls fun call => by simpa using fun member => earlier member
  have kept : (after calls).entries = (after (calls ++ again)).entries := by
    rw [afterAppend] at same ⊢
    exact (throughSuffix (after calls) again).eq_of_length same
  exact congrArg Cache.mk kept.symm

end Cache

theorem cacheHoldsClosure (calls : List (Rules × String)) :
    (∀ key, key ∈ (Cache.after calls).keys ↔
      ∃ call ∈ calls, key ∈ call.1.closure call.2.toList) ∧
    (Cache.after calls).size = (Cache.after calls).keys.toFinset.card ∧
    (∀ more, (Cache.after calls).size ≤ (Cache.after (calls ++ more)).size) ∧
    (∀ others : List (Rules × String), (∀ call, call ∈ calls ↔ call ∈ others) →
      (Cache.after calls).size = (Cache.after others).size) ∧
    ∀ again : List (Rules × String), again ⊆ calls →
      Cache.after (calls ++ again) = Cache.after calls := by
  refine ⟨fun key => Cache.memAfter, ?_, fun more => ?_, fun others => Cache.sizeOfCalls,
    fun again => Cache.afterAgain⟩
  · rw [List.toFinset_card_of_nodup (Cache.afterGains calls).closed.distinct, Cache.sizeKeys]
  · rw [Cache.afterAppend]
    exact (Cache.throughSuffix _ more).length_le

theorem sharedCacheHoldsClosure :
    let brackets := Rules.ofConfig {}
    let angles : Rules := ⟨['<'], ['>'], ['>', '>'], '^'⟩
    let total := (brackets, "count(user.id) as n")
    let id := (angles, "user.id")
    let everything := (brackets, "*")
    let calls := [total, id, everything]
    let others := [everything, id, id, total, id]
    let inner : Key := (brackets, "user.id".toList)
    inner ∈ total.1.closure total.2.toList ∧ inner ∈ (Cache.after calls).keys ∧
    (brackets, "*".toList) ∉ (Cache.after calls).keys ∧
    (∀ call, call ∈ calls ↔ call ∈ others) ∧
    (Cache.after calls).size = 5 ∧ (Cache.after others).size = 5 ∧
    [id, total] ⊆ calls ∧ Cache.after (calls ++ [id, total]) = Cache.after calls := by
  intro brackets angles total id everything calls others inner
  obtain ⟨keys, -, -, sizes, again⟩ := cacheHoldsClosure calls
  have part : inner ∈ total.1.closure total.2.toList := by decide +kernel
  have absent : ∀ call ∈ calls, (brackets, "*".toList) ∉ call.1.closure call.2.toList := by
    decide +kernel
  have same : ∀ call, call ∈ calls ↔ call ∈ others := by
    intro call
    simp [calls, others]
    tauto
  have five : (Cache.after calls).size = 5 := by decide +kernel
  refine ⟨part, (keys inner).mpr ⟨total, by simp [calls], part⟩, ?_, same, five,
    (sizes others same).symm.trans five, by simp [calls], again _ (by simp [calls])⟩
  rw [keys]
  rintro ⟨call, member, inside⟩
  exact absent call member inside

end Sqlwright.Identifier
