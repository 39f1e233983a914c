import SlotRouter.Text.Decimal
import SlotRouter.Text.Split

/-!
# Double-precision numbers and their decimal text

A finite number is `± mantissa · 2 ^ exponent`, kept as exact integers, so nothing here depends on
machine arithmetic.

* `ofDecimal`: the number nearest to a decimal, ties to the even mantissa;
* `ofText?`: the number that a text names;
* `shortest`: the fewest decimal digits that `ofDecimal` reads back, and of those the nearest, ties
  to the larger;
* `plainText`: positional text without a needless point;
* `debugText`: text that is never mistaken for an integer, with an exponent for very large and
  very small numbers;
* `truncate`: the integer part, cut to a range.
-/

namespace SlotRouter

/-- A number of the IEEE 754 format binary64. -/
inductive Binary64
  | nan
  | infinite (negative : Bool)
  /-- `± mantissa · 2 ^ exponent`. -/
  | finite (negative : Bool) (mantissa : Nat) (exponent : Int)
  deriving DecidableEq, Repr

namespace Binary64

/-- A power of natural numbers. -/
def pow (base exponent : Nat) : Nat := Nat.pow base exponent

/-- The least mantissa of full precision: 2 to the power 52. -/
def leastNormal : Nat := 0x10000000000000

/-- The least exponent of a finite number. -/
def minExponent : Int := -1074

/-- The greatest exponent of a finite number. -/
def maxExponent : Int := 971

/-- `num / den` rounded to the nearest integer, ties to even. -/
def roundRatio (num den : Nat) : Nat :=
  let down := num / den
  let rest := 2 * (num % den)
  if rest < den ∨ (rest = den ∧ down % 2 = 0) then down else down + 1

/-- `num / den` scaled by `2 ^ -exponent` and rounded. -/
def scaled (num den : Nat) (exponent : Int) : Nat :=
  roundRatio (num * pow 2 (-exponent).toNat) (den * pow 2 exponent.toNat)

/-- The number nearest to `± num / den`, for a positive denominator. -/
def ofRatio (negative : Bool) (num den : Nat) : Binary64 :=
  if num = 0 then .finite negative 0 minExponent
  else
    let guess : Int := (num.log2 : Int) - (den.log2 : Int) - 52
    let exponent :=
      if num * pow 2 (-guess).toNat < leastNormal * (den * pow 2 guess.toNat) then guess - 1
      else guess
    let exponent := max exponent minExponent
    let mantissa := scaled num den exponent
    let (mantissa, exponent) :=
      if mantissa = 2 * leastNormal then (leastNormal, exponent + 1) else (mantissa, exponent)
    if maxExponent < exponent then .infinite negative else .finite negative mantissa exponent

def ofDecimal (negative : Bool) (digits : Nat) (power : Int) : Binary64 :=
  let size : Int := (Nat.toDigits 10 digits).length + power
  if digits = 0 ∨ size < -330 then .finite negative 0 minExponent
  else if 310 < size then .infinite negative
  else ofRatio negative (digits * pow 10 power.toNat) (pow 10 (-power).toNat)

/-! ## Reading -/

/-- The value and the number of a possibly empty run of digits. -/
def digitRun? (s : List Char) : Option Nat :=
  if s.isEmpty then some 0 else Text.digits? s

/-- Adds a digit to the value of an exponent, unless it has reached 65536: a text has to be as long
as that for a larger exponent to make a difference. -/
def addExponentDigit (value : Nat) (c : Char) : Nat :=
  if value < 65536 then 10 * value + (c.toNat - '0'.toNat) else value

/-- The exponent that a text names: an optional sign, then digits. -/
def exponentOfText? : List Char → Option Int
  | '-' :: rest => (magnitude? rest).map fun n => -(n : Int)
  | s => (magnitude? (Text.dropPlus s)).map fun n => (n : Int)
where
  /-- The value of a non-empty run of digits. -/
  magnitude? (s : List Char) : Option Nat :=
    if !s.isEmpty && s.all Char.isDigit then some (s.foldl addExponentDigit 0) else none

/-- Reads a text without its sign. -/
def magnitudeOfText? (negative : Bool) (s : List Char) : Option Binary64 :=
  let lower := String.ofList (s.map Char.toLower)
  if lower = "inf" ∨ lower = "infinity" then some (.infinite negative)
  else if lower = "nan" then some .nan
  else do
    let (number, power) ← match Text.cutFirst 'e' (s.map Char.toLower) with
      | some (number, power) => (exponentOfText? power).map (number, ·)
      | none => some (s, 0)
    let (whole, fraction) := (Text.cutFirst '.' number).getD (number, [])
    if whole.isEmpty && fraction.isEmpty then none
    let high ← digitRun? whole
    let low ← digitRun? fraction
    some (ofDecimal negative (high * pow 10 fraction.length + low) (power - fraction.length))

/-- The number that a text names: an optional sign, then digits with an optional point and an
optional exponent, or `inf`, `infinity` or `nan` in any case. -/
def ofText? : List Char → Option Binary64
  | '-' :: rest => magnitudeOfText? true rest
  | '+' :: rest => magnitudeOfText? false rest
  | s => magnitudeOfText? false s

/-! ## Shortest digits -/

/-- The least `e` with `num / den < 10 ^ e`, found upwards from `start` in `fuel` steps. -/
def decimalSize (num den : Nat) : Nat → Int → Int
  | 0, e => e
  | fuel + 1, e =>
    if num * pow 10 (-e).toNat < den * pow 10 e.toNat then e else decimalSize num den fuel (e + 1)

/-- Tries the two neighbours of a positive value on the grid of multiples of `10 ^ power`. All
three of `low`, `num` and `high` are over `den`; the ends belong to the interval if `closed`. If
both are inside, the nearer one counts, and halfway the larger. -/
def onGrid? (low num high den : Nat) (closed : Bool) (power : Int) : Option Nat :=
  let unit := den * pow 10 power.toNat
  let scale := pow 10 (-power).toNat
  let down := num * scale / unit
  let inside (g : Nat) : Bool :=
    if closed then low * scale ≤ g * unit && g * unit ≤ high * scale
    else low * scale < g * unit && g * unit < high * scale
  let nearer := if 2 * (num * scale % unit) < unit then down else down + 1
  if inside down && inside (down + 1) then some nearer
  else if inside down then some down
  else if inside (down + 1) then some (down + 1)
  else none

/-- The first grid with a hit, from coarse to fine. -/
def firstGrid (low num high den : Nat) (closed : Bool) (size : Int) : Nat → Nat → Nat × Int
  | 0, count => (num * pow 10 (-(size - count)).toNat / (den * pow 10 (size - count).toNat),
      size - count)
  | fuel + 1, count =>
    match onGrid? low num high den closed (size - count) with
    | some g => (g, size - count)
    | none => firstGrid low num high den closed size fuel (count + 1)

/-- Moves trailing zeros from the digits to the power. -/
def dropZeros : Nat → Nat → Int → Nat × Int
  | 0, digits, power => (digits, power)
  | fuel + 1, digits, power =>
    if digits ≠ 0 ∧ digits % 10 = 0 then dropZeros fuel (digits / 10) (power + 1)
    else (digits, power)

/-- The fewest digits, with their power of ten, that read back as `mantissa · 2 ^ exponent`. -/
def shortest (mantissa : Nat) (exponent : Int) : Nat × Int :=
  if mantissa = 0 then (0, 0)
  else
    let shift := pow 2 exponent.toNat
    let den := 4 * pow 2 (-exponent).toNat
    let below := if mantissa = leastNormal ∧ minExponent < exponent then 1 else 2
    let num := 4 * mantissa * shift
    let low := (4 * mantissa - below) * shift
    let high := (4 * mantissa + 2) * shift
    let size := decimalSize num den 700 (-330)
    let (digits, power) := firstGrid low num high den (mantissa % 2 = 0) size 17 1
    dropZeros 20 digits power

/-! ## Writing -/

/-- Positional text of `digits · 10 ^ power` with at least `places` digits after the point. -/
def positional (digits : Nat) (power : Int) (places : Nat) : String :=
  let ds := Nat.toDigits 10 digits
  let fraction := (-power).toNat
  let ds := ds ++ List.replicate power.toNat '0'
  let ds := List.replicate (fraction + 1 - ds.length) '0' ++ ds
  let whole := ds.take (ds.length - fraction)
  let rest := ds.drop (ds.length - fraction)
  let rest := rest ++ List.replicate (places - rest.length) '0'
  if rest.isEmpty then String.ofList whole else String.ofList (whole ++ '.' :: rest)

/-- Text with one digit before the point and an exponent. -/
def scientific (digits : Nat) (power : Int) : String :=
  let ds := Nat.toDigits 10 digits
  let exponent := power + (ds.length - 1 : Nat)
  let rest := ds.drop 1
  let head := ds.take 1
  let number := if rest.isEmpty then head else head ++ '.' :: rest
  String.ofList number ++ "e" ++ toString exponent

/-- A sign in front of a text. -/
def withSign (negative : Bool) (text : String) : String := if negative then "-" ++ text else text

def plainText : Binary64 → String
  | .nan => "NaN"
  | .infinite negative => withSign negative "inf"
  | .finite negative mantissa exponent =>
    let (digits, power) := shortest mantissa exponent
    withSign negative (positional digits power 0)

def debugText : Binary64 → String
  | .nan => "NaN"
  | .infinite negative => withSign negative "inf"
  | .finite negative mantissa exponent =>
    let (digits, power) := shortest mantissa exponent
    let size : Int := (Nat.toDigits 10 digits).length + power
    if digits ≠ 0 ∧ (size < -3 ∨ 16 < size) then withSign negative (scientific digits power)
    else withSign negative (positional digits power 1)

/-- The integer part, cut to `low` and `high`; zero if there is none. -/
def truncate (low high : Int) : Binary64 → Int
  | .nan => 0
  | .infinite negative => if negative then low else high
  | .finite negative mantissa exponent =>
    let whole : Int := (mantissa * pow 2 exponent.toNat / pow 2 (-exponent).toNat : Nat)
    max low (min high (if negative then -whole else whole))

end Binary64

end SlotRouter
