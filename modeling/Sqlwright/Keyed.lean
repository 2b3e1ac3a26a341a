/-! Maps from names, listed in ascending order of the names; inserting under a name that is
present replaces what it held. -/
namespace Sqlwright

namespace Entries

def insert (key : String) (value : α) : List (String × α) → List (String × α)
  | [] => [(key, value)]
  | (k, v) :: rest =>
      if key < k then (key, value) :: (k, v) :: rest
      else if key = k then (key, value) :: rest
      else (k, v) :: insert key value rest

def lookup (key : String) : List (String × α) → Option α
  | [] => none
  | (k, v) :: rest => if key = k then some v else lookup key rest

def ofList (pairs : List (String × α)) : List (String × α) :=
  pairs.foldl (fun entries (key, value) => insert key value entries) []

def Ascending (entries : List (String × α)) : Prop := entries.Pairwise (·.1 < ·.1)

theorem memInsert {key : String} {value : α} {entries : List (String × α)} {entry : String × α}
    (present : entry ∈ insert key value entries) : entry = (key, value) ∨ entry ∈ entries := by
  induction entries with
  | nil => simpa [insert] using present
  | cons head rest ih =>
    obtain ⟨k, v⟩ := head
    unfold insert at present
    split at present
    · simpa using present
    · split at present
      · rcases List.mem_cons.mp present with same | old
        · exact .inl same
        · exact .inr (List.mem_cons_of_mem _ old)
      · rcases List.mem_cons.mp present with same | old
        · exact .inr (same ▸ List.mem_cons_self)
        · exact (ih old).imp_right (List.mem_cons_of_mem _)

theorem ascendingInsert {key : String} {value : α} {entries : List (String × α)}
    (ascending : Ascending entries) : Ascending (insert key value entries) := by
  induction entries with
  | nil => exact List.pairwise_singleton _ _
  | cons head rest ih =>
    obtain ⟨k, v⟩ := head
    obtain ⟨least, tail⟩ := List.pairwise_cons.mp ascending
    unfold insert
    split
    · rename_i before
      refine List.pairwise_cons.mpr ⟨fun entry member => ?_, ascending⟩
      rcases List.mem_cons.mp member with same | old
      · exact same ▸ before
      · exact String.lt_trans before (least entry old)
    · split
      · rename_i same
        exact List.pairwise_cons.mpr ⟨fun entry old => same ▸ least entry old, tail⟩
      · rename_i notBefore different
        have after : k < key := Std.lt_of_le_of_ne (String.not_lt.mp notBefore) (Ne.symm different)
        refine List.pairwise_cons.mpr ⟨fun entry member => ?_, ih tail⟩
        rcases memInsert member with same | old
        · exact same ▸ after
        · exact least entry old

theorem ascendingOfList (pairs : List (String × α)) : Ascending (ofList pairs) := by
  have grows : ∀ entries : List (String × α), Ascending entries →
      Ascending (pairs.foldl (fun entries (key, value) => insert key value entries) entries) := by
    induction pairs with
    | nil => exact fun _ ascending => ascending
    | cons pair rest ih => exact fun _ ascending => ih _ (ascendingInsert ascending)
  exact grows [] List.Pairwise.nil

theorem lookupInsert (key other : String) (value : α) (entries : List (String × α)) :
    lookup other (insert key value entries) =
      if other = key then some value else lookup other entries := by
  induction entries with
  | nil => rfl
  | cons head rest ih =>
    obtain ⟨k, v⟩ := head
    unfold insert
    split
    · simp [lookup]
    · split
      · rename_i same
        subst same
        by_cases found : other = key <;> simp [lookup, found]
      · rename_i different
        by_cases found : other = k
        · subst found
          simp [lookup, Ne.symm different]
        · simp [lookup, found, ih]

theorem lookupIff {key : String} {value : α} {entries : List (String × α)}
    (ascending : Ascending entries) : lookup key entries = some value ↔ (key, value) ∈ entries := by
  induction entries with
  | nil => simp [lookup]
  | cons head rest ih =>
    obtain ⟨k, v⟩ := head
    obtain ⟨least, tail⟩ := List.pairwise_cons.mp ascending
    by_cases here : key = k
    · subst here
      have absent : (key, value) ∉ rest := fun member => String.lt_irrefl key (least _ member)
      simp [lookup, absent, eq_comm]
    · simp [lookup, here, ih tail]

end Entries

structure Keyed (α : Type) where
  entries : List (String × α)
  ascending : Entries.Ascending entries

namespace Keyed

def empty : Keyed α := ⟨[], List.Pairwise.nil⟩

def insert (map : Keyed α) (key : String) (value : α) : Keyed α :=
  ⟨Entries.insert key value map.entries, Entries.ascendingInsert map.ascending⟩

def ofList (pairs : List (String × α)) : Keyed α := ⟨Entries.ofList pairs, Entries.ascendingOfList pairs⟩

def find? (map : Keyed α) (key : String) : Option α := Entries.lookup key map.entries

def keys (map : Keyed α) : List String := map.entries.map (·.1)

theorem findInsert (map : Keyed α) (key other : String) (value : α) :
    (map.insert key value).find? other = if other = key then some value else map.find? other :=
  Entries.lookupInsert key other value map.entries

theorem findIff {map : Keyed α} {key : String} {value : α} :
    map.find? key = some value ↔ (key, value) ∈ map.entries :=
  Entries.lookupIff map.ascending

end Keyed

end Sqlwright
