import Recommendation.Decimal.Layout
import Recommendation.Rule
import Recommendation.Weights

/-!
The settings of an engine: how far back its signals look, how much they fetch, how the list is put
together, and how long it may be. Settings are checked once, before an engine is built from them.
-/

namespace Recommendation

/-- The settings of an engine. Windows and the half-life are in days. -/
structure Settings where
  /-- The time in which an event loses half of its weight. -/
  halfLife : Float := 14.0
  popularityWindow : Float := 30.0
  coVisitationWindow : Float := 30.0
  /-- How many items each signal may propose. -/
  popularityFanout : Nat := 500
  coVisitationFanout : Nat := 200
  /-- How many of the user's latest items co-visitation starts from. -/
  maxSeeds : Nat := 10
  /-- How much relevance counts against likeness in the list. -/
  balance : Float := 0.7
  /-- How many items of a brand, and of a category, a list takes; nought for any number. -/
  brandCap : Nat := 0
  categoryCap : Nat := 0
  /-- Items that the user has met recently are left out. -/
  excludesRecent : Bool := false
  /-- The kinds of events that count as meeting an item. -/
  excludedKinds : List Int := [3]
  brandStarts : List String := ["brand:"]
  categoryStarts : List String := ["category:", "cat:"]
  purchasedWindow : Float := 30.0
  profileWindow : Float := 30.0
  profileBoost : Float := 0.5
  /-- How many tags a profile has. -/
  profileTags : Nat := 20
  profileFanout : Nat := 200
  /-- Users with fewer recent items get less of the boost; nought for no such rule. -/
  profileMinEvents : Nat := 3
  coldStart : Float := 0.5
  /-- How many slots the rules of one request have for pins. -/
  maxPinSlots : Nat := 3
  weights : Weights Float := ⟨1.0, 0.1, 0.1⟩
  maxListLength : Nat := 100

inductive SettingsError
  | notPositive (name : String) (value : Float)
  | outOfUnitRange (name : String) (value : Float)
  | zeroCount (name : String)
  | blend (cause : WeightsError)

def SettingsError.message : SettingsError → String
  | .notPositive name value => name ++ " must be positive, got " ++ Decimal.message value
  | .outOfUnitRange name value => name ++ " must be between 0 and 1, got " ++ Decimal.message value
  | .zeroCount name => name ++ " must be at least 1"
  | .blend cause => "default blend weights are invalid: " ++ cause.message

namespace Settings

def starts (s : Settings) : FacetStarts := ⟨s.brandStarts, s.categoryStarts⟩

def checkPositive (name : String) (x : Float) : Except SettingsError Unit :=
  if x.isFinite && 0.0 < x then pure () else throw (.notPositive name x)

def checkUnit (name : String) (x : Float) : Except SettingsError Unit :=
  if 0.0 ≤ x && x ≤ 1.0 then pure () else throw (.outOfUnitRange name x)

def checkCount (name : String) (n : Nat) : Except SettingsError Unit :=
  if n = 0 then throw (.zeroCount name) else pure ()

/-- Checks the settings one by one; the first fault counts. -/
def validate (s : Settings) : Except SettingsError Unit := do
  checkPositive "half_life_days" s.halfLife
  checkPositive "popularity_window_days" s.popularityWindow
  checkPositive "covis_window_days" s.coVisitationWindow
  checkPositive "purchased_window_days" s.purchasedWindow
  checkPositive "profile_window_days" s.profileWindow
  checkUnit "mmr_lambda" s.balance
  checkUnit "profile_cold_start_multiplier" s.coldStart
  checkCount "k_max" s.maxListLength
  checkCount "popularity_fanout" s.popularityFanout
  checkCount "cooc_fanout" s.coVisitationFanout
  checkCount "profile_fanout" s.profileFanout
  checkCount "profile_top_n_tags" s.profileTags
  checkCount "max_pin_slots" s.maxPinSlots
  if s.profileBoost.isFinite && 0.0 ≤ s.profileBoost then pure ()
  else throw (.notPositive "profile_boost" s.profileBoost)
  s.weights.validate.mapError .blend

end Settings

end Recommendation
