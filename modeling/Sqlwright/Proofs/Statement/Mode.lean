import Sqlwright.Proofs.Statement.Site

/-! The two modes of one set of rules. In one, values are bound and placeholders stand for them;
in the other they are written out where the placeholders were. Values that a text has its own
placeholders for are bound in both, so they are all that is left to bind in the second. -/
namespace Sqlwright

def Config.binding (config : Config) : Config := { config with inline := false }

namespace Token

def literal (config : Config) : Token → String
  | .text sql => sql
  | .placeholder _ value => value.literal config

/-- The text with the literals of their values in the place of placeholders. -/
def spelled (config : Config) : List Token → String
  | [] => ""
  | token :: rest => token.literal config ++ spelled config rest

theorem spelledAppend (config : Config) (first second : List Token) :
    spelled config (first ++ second) = spelled config first ++ spelled config second := by
  induction first with
  | nil => simp [spelled]
  | cons token rest ih => simp [spelled, ih, String.append_assoc]

end Token

namespace Site

def used (use : Use) (sites : List Site) : List Value :=
  (sites.filter fun site => site.use == use).map value

theorem usedAppend (use : Use) (first second : List Site) :
    used use (first ++ second) = used use first ++ used use second := by
  simp only [used, List.filter_append, List.map_append]

theorem usedLoose (values : List Value) : used .loose (loose values) = values := by
  induction values with
  | nil => rfl
  | cons value rest ih => exact congrArg (value :: ·) ih

theorem usedBound {use : Use} (needed : use ≠ .unused) (sites : List Site) :
    used use (bound sites) = used use sites := by
  have kept : ∀ site : Site, (site.use == use && site.isBound) = (site.use == use) := by
    intro site
    by_cases same : site.use = use
    · simp [isBound, same, needed]
    · simp [same]
  simp only [used, bound, List.filter_filter, kept]

theorem usedNone {use : Use} {sites : List Site} :
    used use sites = [] ↔ ∀ site ∈ sites, site.use ≠ use := by
  simp [used, List.filter_eq_nil_iff]

theorem slotsPlaced (count : Nat) (sites : List Site) :
    (slots count sites).map (·.2) = used .placed sites := by
  induction sites generalizing count with
  | nil => rfl
  | cons site rest ih =>
    have later := ih (count + 1)
    cases use : site.use <;> simpa [slots, used, use] using later

end Site

namespace Piece

theorem spelledTokens (config : Config) (count other : Nat) (piece : Piece) :
    Token.joined config.inlined (piece.tokens config.inlined count) =
      Token.spelled config (piece.tokens config.binding other) := by
  cases piece with
  | value item =>
    have here : item.literal config.inlined = item.literal config := item.literalInlined config
    simp only [tokens, Config.inlined, Config.binding, if_true, Bool.false_eq_true, if_false,
      Token.joined, Token.spelled, Token.sql, Token.literal] at here ⊢
    rw [here]
  | _ => rfl

theorem spelledAllTokens (config : Config) (count other : Nat) (pieces : List Piece) :
    Token.joined config.inlined (allTokens config.inlined count pieces) =
      Token.spelled config (allTokens config.binding other pieces) := by
  induction pieces generalizing count other with
  | nil => rfl
  | cons piece rest ih =>
    have first := spelledTokens config count other piece
    have later := ih (count + (piece.bound config.inlined).length)
      (other + (piece.bound config.binding).length)
    rw [allTokens, allTokens, Token.joinedAppend, Token.spelledAppend, first, later]

theorem boundInlined (config : Config) (piece : Piece) :
    piece.bound config.inlined = Site.used .loose piece.sites := by
  cases piece with
  | arguments items => exact (Site.usedLoose items).symm
  | _ => rfl

theorem allBoundInlined (config : Config) (pieces : List Piece) :
    allBound config.inlined pieces = Site.used .loose (allSites pieces) := by
  induction pieces with
  | nil => rfl
  | cons piece rest ih =>
    have first := boundInlined config piece
    have both : allSites (piece :: rest) = piece.sites ++ allSites rest := rfl
    rw [both, Site.usedAppend, ← first, ← ih]
    rfl

end Piece

end Sqlwright
