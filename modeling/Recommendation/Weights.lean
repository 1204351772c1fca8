import Recommendation.Score

/-!
The signals that propose items, and the weights with which a blend counts them.
-/

namespace Recommendation

inductive Signal
  | popularity
  | coVisitation
  | profile
deriving DecidableEq, Repr

namespace Signal

/-- Every signal, in the order in which they are named. -/
def all : List Signal := [.popularity, .coVisitation, .profile]

def name : Signal → String
  | .popularity => "pop"
  | .coVisitation => "cooc"
  | .profile => "profile"

end Signal

structure Weights (α : Type) where
  popularity : α
  coVisitation : α
  profile : α

inductive WeightsError
  | notFinite (name : String)
  | negative (name : String)
  | allZero
deriving DecidableEq, Repr

def WeightsError.message : WeightsError → String
  | .notFinite name => name ++ " weight must be a finite number"
  | .negative name => name ++ " weight must not be negative"
  | .allZero => "at least one weight must be positive"

namespace Weights

variable {α : Type} [Score α]

def get (w : Weights α) : Signal → α
  | .popularity => w.popularity
  | .coVisitation => w.coVisitation
  | .profile => w.profile

def check (name : String) (x : α) : Except WeightsError Unit :=
  if !Score.isFinite x then throw (.notFinite name)
  else if Score.below x Score.zero then throw (.negative name)
  else pure ()

/-- Weights are finite, none is negative, and one at least is positive. -/
def validate (w : Weights α) : Except WeightsError Unit := do
  check "pop" w.popularity
  check "cooc" w.coVisitation
  check "als" w.profile
  if Signal.all.any fun s => Score.isPositive (w.get s) then pure () else throw .allZero

def ofFloats (w : Weights Float) : Weights α :=
  ⟨Score.ofFloat w.popularity, Score.ofFloat w.coVisitation, Score.ofFloat w.profile⟩

end Weights

end Recommendation
