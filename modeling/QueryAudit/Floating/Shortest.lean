import QueryAudit.Floating

/-!
# The fewest digits of a number

A floating-point number is shown with the fewest decimal digits that are read back as it, and of
several such numerals with the one next to it. The reals that are read as a number lie around it, up
to half the way to its neighbours; the ends belong to it when its significand is even. All of this
is decided on whole numbers.
-/

namespace QueryAudit.Floating

/-- A decimal number: `digits * 10 ^ exponent`. -/
structure Decimal where
  /-- The digits, as a number. -/
  digits : Nat
  /-- The place of the last digit. -/
  exponent : Int
  deriving DecidableEq

/-- The reals that are read as one positive number, with the number itself: all in quarters of the
unit of its last binary place, as multiples of the unit of a decimal place. -/
structure Reach where
  /-- The lower end, times the denominator. -/
  low : Nat
  /-- The number, times the denominator. -/
  value : Nat
  /-- The upper end, times the denominator. -/
  high : Nat
  /-- The denominator. -/
  denominator : Nat
  /-- Whether the ends are read as the number. -/
  closed : Bool

/-- The reach of `significand * 2 ^ exponent` on the grid of multiples of `10 ^ place`. Below a
power of two the neighbour is half as far away, unless the exponent is the least one. -/
def reach (significand : Nat) (exponent place : Int) : Reach :=
  let numerator := Nat.pow 2 (exponent - 2).toNat * Nat.pow 10 (-place).toNat
  let gap := if significand = Nat.pow 2 52 ∧ -1074 < exponent then 1 else 2
  { low := (4 * significand - gap) * numerator
    value := 4 * significand * numerator
    high := (4 * significand + 2) * numerator
    denominator := Nat.pow 2 (2 - exponent).toNat * Nat.pow 10 place.toNat
    closed := significand % 2 = 0 }

/-- Whether a point of the grid is read as the number. -/
def Reach.holds (reach : Reach) (point : Nat) : Bool :=
  let scaled := point * reach.denominator
  if reach.closed then decide (reach.low ≤ scaled ∧ scaled ≤ reach.high)
  else decide (reach.low < scaled ∧ scaled < reach.high)

/-- The two points of the grid on both sides of the number, the nearer one first and of two equally
near ones the even one. -/
def Reach.neighbours (reach : Reach) : Nat × Nat :=
  let below := reach.value / reach.denominator
  let middle := (2 * below + 1) * reach.denominator
  if 2 * reach.value < middle ∨ 2 * reach.value = middle ∧ below % 2 = 0 then (below, below + 1)
  else (below + 1, below)

/-- The point of the grid next to the number that is read as it. -/
def Reach.point? (reach : Reach) : Option Nat :=
  let (first, second) := reach.neighbours
  if reach.holds first then some first
  else if reach.holds second then some second
  else none

/-- The point that is found is read as the number. -/
theorem Reach.holds_of_point? {reach : Reach} {point : Nat} (h : reach.point? = some point) :
    reach.holds point = true := by
  simp only [Reach.point?] at h
  split at h
  · next hfirst => exact Option.some.inj h ▸ hfirst
  · split at h
    · next hsecond => exact Option.some.inj h ▸ hsecond
    · cases h

/-- The number of digits before the point of a positive number; negative when zeros follow the
point. The least positive number is greater than `10 ^ -400`. -/
def magnitude (significand : Nat) (exponent : Int) : Int :=
  let scaled :=
    significand * Nat.pow 2 exponent.toNat * Nat.pow 10 400 / Nat.pow 2 (-exponent).toNat
  (Nat.toDigits 10 scaled).length - 400

/-- The most digits that any number needs. -/
def digitsNeeded : Nat := 17

/-- The decimal number with the fewest digits that is read as a positive number. Should there be
none, it is the number itself, in full. -/
def shortest (significand : Nat) (exponent : Int) : Decimal :=
  let top := magnitude significand exponent
  let found := (List.range digitsNeeded).findSome? fun (n : Nat) =>
    let place : Int := top - (n + 1)
    (reach significand exponent place).point?.map fun point => (⟨point, place⟩ : Decimal)
  found.getD
    ⟨significand * Nat.pow 2 exponent.toNat * Nat.pow 5 (-exponent).toNat, min exponent 0⟩

/-- The greatest number of digits before the point without an exponent. -/
def plainDigits : Int := 16

/-- The greatest number of zeros after the point without an exponent. -/
def plainZeros : Int := 3

/-- Digits with a point after the first `top` of them. Very large and very small numbers have one
digit before the point and an exponent of two digits at least. -/
def layout (digits : List Char) (top : Int) : List Char :=
  if -plainZeros ≤ top ∧ top ≤ 0 then
    '0' :: '.' :: List.replicate (-top).toNat '0' ++ digits
  else if 0 < top ∧ top ≤ plainDigits then
    let whole := digits.take top.toNat
    let places := digits.drop top.toNat
    whole ++ List.replicate (top.toNat - whole.length) '0' ++
      '.' :: (if places.isEmpty then ['0'] else places)
  else
    let size := Text.numeral (top - 1).natAbs
    digits.take 1 ++ (if digits.length ≤ 1 then [] else '.' :: digits.drop 1) ++
      'e' :: (if top - 1 < 0 then '-' else '+') :: List.replicate (2 - size.length) '0' ++ size

/-- A number as it is shown: with a point or an exponent, so that it is not taken for an integer. -/
def display : Floating → String
  | .finite negative significand exponent =>
    let digits :=
      if significand = 0 then ['0', '.', '0']
      else
        let decimal := shortest significand exponent
        let digits := Text.numeral decimal.digits
        let kept := (digits.reverse.dropWhile (· == '0')).reverse
        layout kept (decimal.exponent + digits.length)
    String.ofList (if negative then '-' :: digits else digits)
  | .infinite negative => if negative then "-inf" else "inf"
  | .undefined _ => "nan"

end QueryAudit.Floating
