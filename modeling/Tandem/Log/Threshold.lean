import Tandem.Integer.Decimal
import Tandem.Log.Entry

/-! # Thresholds

How much an entry has to matter in order to be written.
-/

namespace Tandem.Log

/-- The least important level to write; `none` writes nothing. -/
abbrev Threshold := Option Level

namespace Threshold

/-- Whether entries of a level are written. -/
def admits (threshold : Threshold) (level : Level) : Bool :=
  threshold.any fun least => level.rank ≤ least.rank

/-- The threshold at a level's place, or at zero the one that writes nothing. -/
def ofRank? : Nat → Option Threshold
  | 0 => some none
  | 1 => some (some .error)
  | 2 => some (some .warn)
  | 3 => some (some .info)
  | 4 => some (some .debug)
  | 5 => some (some .trace)
  | _ => none

/-- The threshold of a name in small letters. -/
def ofName? : String → Option Threshold
  | "off" => some none
  | "error" => some (some .error)
  | "warn" => some (some .warn)
  | "info" => some (some .info)
  | "debug" => some (some .debug)
  | "trace" => some (some .trace)
  | _ => none

/-- Read a threshold by its place, or by its name in any mix of cases. -/
def read? (text : List Char) : Option Threshold :=
  match Integer.Decimal.readNat? text with
  | some rank => ofRank? rank
  | none => ofName? (String.ofList (text.map Char.toLower))

end Threshold

end Tandem.Log
