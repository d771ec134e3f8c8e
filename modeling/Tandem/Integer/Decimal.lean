/-! # Integers in decimal

A number is written with as few digits as it needs, behind a minus sign if it is
negative. It is read from one or more of the digits `0` to `9` behind an
optional sign, so leading zeros and a plus sign are accepted.
-/

namespace Tandem.Integer.Decimal

/-- The digit of a number below ten. -/
def digit (value : Nat) : Char :=
  Char.ofNat ('0'.toNat + value)

/-- The digits of a natural number, highest first. -/
def digits (value : Nat) : List Char :=
  if value < 10 then [digit value] else digits (value / 10) ++ [digit (value % 10)]

/-- A natural number in decimal. -/
def ofNat (value : Nat) : String :=
  String.ofList (digits value)

/-- An integer in decimal. -/
def ofInt (value : Int) : String :=
  String.ofList (if value < 0 then '-' :: digits value.natAbs else digits value.natAbs)

/-- Read digits behind a number already read. -/
def readRest? : Nat → List Char → Option Nat
  | value, [] => some value
  | value, c :: rest =>
    if c.isDigit then readRest? (10 * value + (c.toNat - '0'.toNat)) rest else none

/-- Read one or more digits. -/
def readDigits? : List Char → Option Nat
  | [] => none
  | text => readRest? 0 text

/-- Read a number that may have a plus sign. -/
def readNat? : List Char → Option Nat
  | '+' :: rest => readDigits? rest
  | text => readDigits? text

/-- Read a number that may have a sign. -/
def readInt? : List Char → Option Int
  | '-' :: rest => (readDigits? rest).map fun value => -(value : Int)
  | text => (readNat? text).map Int.ofNat

/-- Read a signed number of 32 bits. -/
def readInt32? (text : List Char) : Option Int32 :=
  (readInt? text).bind fun value =>
    if Int32.minValue.toInt ≤ value ∧ value ≤ Int32.maxValue.toInt then
      some (Int32.ofInt value)
    else none

/-- Read an unsigned number of 64 bits. -/
def readUInt64? (text : List Char) : Option UInt64 :=
  (readNat? text).bind fun value =>
    if value < UInt64.size then some (UInt64.ofNat value) else none

end Tandem.Integer.Decimal
