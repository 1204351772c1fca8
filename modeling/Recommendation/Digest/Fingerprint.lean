import Recommendation.Digest.Sha256
import Recommendation.Text.Quoted

/-!
Short names for texts: the first digits, in base sixteen, of the hash of a text's bytes.
-/

namespace Recommendation.Digest

def wordDigits (w : Word) : List Char :=
  (List.range 8).map fun i => Text.hexDigit (w.toNat / Nat.pow 16 (7 - i) % 16)

def fingerprint (count : Nat) (s : String) : String :=
  String.ofList (((sha256 s.toUTF8.toList).flatMap wordDigits).take count)

end Recommendation.Digest
