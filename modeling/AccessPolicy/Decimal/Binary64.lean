/-!
# Finite binary64 numbers, exactly

Every finite binary64 number is a whole multiple of the least positive one, `2 ^ -1074`. A number is
stored as that multiple and a sign, so rounding is the only step that binary64 arithmetic adds to
arithmetic on naturals.

A magnitude is the nearest binary64 number to every real in an interval around it, whose ends belong
to it when its significand is even. `shortest` takes the coarsest decimal grid that has a point in
the interval, and on that grid the point nearest to the magnitude.
-/

namespace AccessPolicy

/-- A finite binary64 number: `units` times `2 ^ -1074`, negated when `negative` is set. -/
structure Binary64 where
  negative : Bool
  units : Nat
  deriving DecidableEq

namespace Binary64

/-- How many units make one. -/
def one : Nat := Nat.pow 2 1074

/-- The least magnitude beyond every finite number. -/
def limit : Nat := Nat.pow 2 2098

/-- The distance from a magnitude to the next larger one, 53 significant bits being kept. -/
def gap (units : Nat) : Nat := Nat.pow 2 (units.log2 - 52)

/-- `num / den` units rounded to a representable magnitude, a half to the even neighbour. -/
def round (num den : Nat) : Nat :=
  let step := den * gap (num / den)
  let quotient := num / step
  let rest := num % step
  let up := step < 2 * rest ∨ (2 * rest = step ∧ quotient % 2 = 1)
  (if up then quotient + 1 else quotient) * gap (num / den)

def magnitude (n : Nat) : Nat := round (n * one) 1

def product (a b : Nat) : Nat := round (a * b) one

def quotient (a b : Nat) : Nat := round (a * one) b

def powerOfTen (power : Nat) : Nat := magnitude (Nat.pow 10 power)

/-- A magnitude times `10 ^ power`; `none` when the product is not finite. -/
def raise? (units power : Nat) : Option Nat :=
  if units = 0 then some 0
  else if 308 < power then none
  else
    let raised := product units (powerOfTen power)
    if raised < limit then some raised else none

/-- A magnitude divided by `10 ^ power`, in steps of at most `10 ^ 308`. -/
def lower (units power : Nat) : Nat :=
  if units = 0 then 0
  else if 308 < power then lower (quotient units (powerOfTen 308)) (power - 308)
  else quotient units (powerOfTen power)
termination_by power
decreasing_by omega

/-- `significand * 10 ^ exponent`, the significand rounded first and the scaled value again. -/
def scaled? (significand : Nat) : Int → Option Nat
  | .ofNat power => raise? (magnitude significand) power
  | .negSucc power => some (lower (magnitude significand) (power + 1))

/-- Numeric equality: the two zeros are one number. -/
def sameNumber (a b : Binary64) : Bool :=
  a.units == b.units && (a.negative == b.negative || a.units == 0)

theorem sameNumber_refl (a : Binary64) : a.sameNumber a = true := by
  simp [sameNumber]

end Binary64

end AccessPolicy

namespace AccessPolicy.Binary64

-- ---------------------------------------------------------------------------
-- The fewest decimal digits that read back
-- ---------------------------------------------------------------------------

structure Decimal where
  digits : Nat
  exponent : Int
  deriving DecidableEq

def tenths : Int → Nat × Nat
  | .ofNat power => (Nat.pow 10 power, 1)
  | .negSucc power => (1, Nat.pow 10 (power + 1))

/-- The distance to the next smaller magnitude: half the gap above it at a power of two. -/
def gapBelow (units : Nat) : Nat :=
  if units = Nat.pow 2 units.log2 ∧ 1 < gap units then gap units / 2 else gap units

def readsBack (units : Nat) (decimal : Decimal) : Bool :=
  let (num, den) := tenths decimal.exponent
  let point := 2 * decimal.digits * num * one
  let low := (2 * units - gapBelow units) * den
  let high := (2 * units + gap units) * den
  if units / gap units % 2 = 0 then low ≤ point && point ≤ high else low < point && point < high

/-- The greatest `e` with `10 ^ e` at most `units`, from an estimate that is off by at most one. -/
def leading (units : Nat) : Int :=
  let estimate := Int.fdiv ((units.log2 - 1074 : Int) * 30103) 100000
  let reached := fun e : Int => let (num, den) := tenths e; num * one ≤ units * den
  if reached (estimate + 1) then estimate + 1
  else if reached estimate then estimate
  else estimate - 1

/-- The best point of the grid of `10 ^ exponent` that reads back: the nearer of the two
neighbours, of two equally near the even one. -/
def onGrid (units : Nat) (exponent : Int) : Option Decimal :=
  let (num, den) := tenths exponent
  let floor := units * den / (num * one)
  let rest := units * den % (num * one)
  let below : Decimal := ⟨floor, exponent⟩
  let above : Decimal := ⟨floor + 1, exponent⟩
  match readsBack units below, readsBack units above with
  | true, true =>
    if 2 * rest < num * one ∨ (2 * rest = num * one ∧ floor % 2 = 0) then some below else some above
  | true, false => some below
  | false, true => some above
  | false, false => none

def trim : Nat → Decimal → Decimal
  | 0, decimal => decimal
  | count + 1, decimal =>
    if decimal.digits ≠ 0 ∧ decimal.digits % 10 = 0 then
      trim count ⟨decimal.digits / 10, decimal.exponent + 1⟩
    else decimal

/-- A decimal on the coarsest grid that has one; seventeen digits always suffice. -/
def search (units : Nat) : Option Decimal :=
  let top := leading units
  (List.range 17).findSome? fun (count : Nat) => onGrid units (top - count)

def trimmed : Option Decimal → Decimal
  | some decimal => trim 17 decimal
  | none => ⟨0, 0⟩

def shortest (units : Nat) : Decimal := trimmed (search units)

end AccessPolicy.Binary64
