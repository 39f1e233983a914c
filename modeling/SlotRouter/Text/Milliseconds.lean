/-!
# Durations as text

* `millisecondsText`: a duration in the largest unit that leaves a whole part.
-/

namespace SlotRouter.Text

/-- Drops trailing zeros. -/
def dropTrailingZeros (s : List Char) : List Char := (s.reverse.dropWhile (· == '0')).reverse

/-- The thousandths of a number, without trailing zeros and their point. -/
def thousandths (n : Nat) : String :=
  let digits := Nat.toDigits 10 n
  let padded := List.replicate (3 - digits.length) '0' ++ digits
  let kept := dropTrailingZeros padded
  if kept.isEmpty then "" else String.ofList ('.' :: kept)

/-- A number of milliseconds: whole milliseconds below a second, seconds from there on. -/
def millisecondsText (ms : Nat) : String :=
  if ms = 0 then "0ns"
  else if ms < 1000 then toString ms ++ "ms"
  else toString (ms / 1000) ++ thousandths (ms % 1000) ++ "s"

end SlotRouter.Text
