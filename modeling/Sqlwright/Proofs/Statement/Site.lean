import Sqlwright.Proofs.Statement.Token

/-! Where the values of a statement stand. A placed value has a placeholder written for it. A
loose one is bound for a placeholder that a text already has. An unused one is no part of the
statement. Placed and loose values take their places among the arguments alike, so a placeholder
has the index of its site, counted from one. -/
namespace Sqlwright

inductive Use where
  | placed | loose | unused
  deriving DecidableEq, Repr

structure Site where
  use : Use
  value : Value

namespace Site

def isBound (site : Site) : Bool := site.use != .unused

def loose (values : List Value) : List Site := values.map (⟨.loose, ·⟩)

def unused (sites : List Site) : List Site := sites.map fun site => ⟨.unused, site.value⟩

def unusedIf (absent : Bool) (sites : List Site) : List Site :=
  if absent then unused sites else sites

def bound (sites : List Site) : List Site := sites.filter isBound

theorem boundLoose (values : List Value) : bound (loose values) = loose values := by
  induction values with
  | nil => rfl
  | cons value rest ih =>
    have first : isBound ⟨.loose, value⟩ = true := rfl
    simp only [bound, loose, List.map_cons, List.filter_cons_of_pos first]
    exact congrArg _ ih

theorem boundUnused (sites : List Site) : bound (unused sites) = [] := by
  simp [bound, unused, isBound, List.filter_eq_nil_iff]

theorem memBound {site : Site} {sites : List Site} (member : site ∈ bound sites) :
    site.use = .placed ∨ site.use = .loose := by
  have kept := (List.mem_filter.mp member).2
  cases use : site.use with
  | placed => exact .inl rfl
  | loose => exact .inr rfl
  | unused => simp [isBound, use] at kept

theorem boundUnusedIf (absent : Bool) (sites : List Site) :
    bound (unusedIf absent sites) = if absent then [] else bound sites := by
  cases absent
  · rfl
  · exact boundUnused sites

theorem boundAppend (first second : List Site) :
    bound (first ++ second) = bound first ++ bound second :=
  List.filter_append ..

def slots (count : Nat) : List Site → List (Nat × Value)
  | [] => []
  | site :: rest =>
      (if site.use = .placed then [(count + 1, site.value)] else []) ++ slots (count + 1) rest

theorem slotsAppend (count : Nat) (first second : List Site) :
    slots count (first ++ second) = slots count first ++ slots (count + first.length) second := by
  induction first generalizing count with
  | nil => rfl
  | cons site rest ih =>
    have shift : count + 1 + rest.length = count + (rest.length + 1) := by omega
    simp only [List.cons_append, slots, ih, List.append_assoc, List.length_cons, shift]

theorem slotsLoose (count : Nat) (values : List Value) : slots count (loose values) = [] := by
  induction values generalizing count with
  | nil => rfl
  | cons value rest ih => simpa [loose, slots] using ih (count + 1)

theorem memSlots {count position : Nat} {value : Value} {sites : List Site} :
    (position, value) ∈ slots count sites ↔
      ∃ index, sites[index]? = some ⟨.placed, value⟩ ∧ position = count + index + 1 := by
  induction sites generalizing count with
  | nil => simp [slots]
  | cons site rest ih =>
    rw [slots, List.mem_append, ih]
    constructor
    · rintro (here | ⟨index, found, same⟩)
      · obtain ⟨use, v⟩ := site
        cases use <;> simp at here
        exact ⟨0, by simp [here.2], here.1⟩
      · exact ⟨index + 1, by simpa using found, by omega⟩
    · rintro ⟨index, found, same⟩
      cases index with
      | zero =>
        have here : site = ⟨.placed, value⟩ := by simpa using found
        exact .inl (by simp [here, same])
      | succ index => exact .inr ⟨index, by simpa using found, by omega⟩

theorem slotsAscending (count : Nat) (sites : List Site) :
    ((slots count sites).map (·.1)).Pairwise (· < ·) := by
  induction sites generalizing count with
  | nil => exact List.Pairwise.nil
  | cons site rest ih =>
    have later : ∀ position ∈ (slots (count + 1) rest).map (·.1), count + 1 < position := by
      intro position member
      obtain ⟨⟨found, value⟩, slot, same⟩ := List.mem_map.mp member
      obtain ⟨index, _, place⟩ := memSlots.mp slot
      have here : found = position := same
      omega
    rw [slots, List.map_append]
    by_cases placed : site.use = .placed
    · simpa [placed] using ⟨fun position value member => later position
        (List.mem_map.mpr ⟨_, member, rfl⟩), ih (count + 1)⟩
    · simpa [placed] using ih (count + 1)

end Site

namespace Piece

def sites : Piece → List Site
  | .value item => [⟨.placed, item⟩]
  | .arguments items => Site.loose items
  | _ => []

def allSites (pieces : List Piece) : List Site := pieces.flatMap sites

theorem allBoundSites {config : Config} (binds : config.inline = false) (pieces : List Piece) :
    allBound config pieces = (allSites pieces).map Site.value := by
  induction pieces with
  | nil => rfl
  | cons piece rest ih =>
    have first : piece.bound config = piece.sites.map Site.value := by
      cases piece <;> simp [bound, sites, binds, Site.loose, Function.comp_def]
    simp only [allBound, allSites, List.flatMap_cons, List.map_append] at ih ⊢
    rw [first, ih]

theorem slotsOfTokens {config : Config} (binds : config.inline = false) (count : Nat)
    (pieces : List Piece) :
    (allTokens config count pieces).filterMap Token.slot? =
      Site.slots count (allSites pieces) := by
  induction pieces generalizing count with
  | nil => rfl
  | cons piece rest ih =>
    have first : (piece.tokens config count).filterMap Token.slot? =
        Site.slots count piece.sites := by
      cases piece <;> simp [tokens, sites, binds, Site.slots, Site.slotsLoose, Token.slot?]
    have size : (piece.bound config).length = piece.sites.length := by
      cases piece <;> simp [bound, sites, binds, Site.loose]
    rw [allTokens, List.filterMap_append, first, ih, size]
    exact (Site.slotsAppend count piece.sites (allSites rest)).symm

end Piece

end Sqlwright
