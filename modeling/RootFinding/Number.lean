/-!
# The numbers the methods compute with

Every method of this library is written once, over a type `α` with the operations of `Number α`.
There are two instances.

* `Float`, the IEEE doubles: this is what runs. Only operations with a logical definition are used,
  so each rounding step is visible to a proof.
* `Rat`, the exact rationals: the same recurrences without rounding, for the statements of
  numerical analysis.

`Number` asks for no laws. Comparisons are decidable propositions, and all of them are false on a
double that is not a number; a test that has to reject such a value is therefore written as a
comparison that must hold.
-/

namespace RootFinding

/-- The arithmetic, the comparisons and the conversions that the methods use. -/
class Number (α : Type) extends Add α, Sub α, Mul α, Div α, Neg α, LT α, LE α where
  /-- The strict order is decidable. -/
  [decidableLT : ∀ a b : α, Decidable (a < b)]
  /-- The weak order is decidable. -/
  [decidableLE : ∀ a b : α, Decidable (a ≤ b)]
  /-- The number nearest to a natural number. -/
  ofNat : Nat → α
  /-- The number nearest to `digits / 10 ^ places`. -/
  decimal : (digits places : Nat) → α
  /-- The magnitude. -/
  abs : α → α
  /-- False of the infinities and of a value that is not a number. -/
  isFinite : α → Bool
  /-- The least whole number that is not smaller. -/
  ceil : α → α
  /-- The natural number below a nonnegative value. -/
  toNat : α → Nat

namespace Number

attribute [reducible] decidableLT decidableLE
attribute [instance] decidableLT decidableLE

variable {α : Type} [Number α]

/-- The number zero. -/
def zero : α := ofNat 0

/-- The number one. -/
def one : α := ofNat 1

/-- The number two. -/
def two : α := ofNat 2

/-- The number three. -/
def three : α := ofNat 3

/-- The larger of a running maximum and a new value. Of two equal values the new one is taken, which
shows where the two zeros meet; a value that is not a number never replaces the maximum. -/
def maxWith (best x : α) : α := if best ≤ x then x else best

/-- A value cut off at `limit`. From the limit on the result is the limit itself, also where the two
are zeros of different sign; a value that is not a number becomes the limit. -/
def cutAt (limit x : α) : α := if x < limit then x else limit

/-- Whether a tolerance may be asked for: it is finite and positive. -/
def isTolerance (x : α) : Bool := isFinite x && decide (zero < x)

/-- Repeated squaring: `powLoop fuel r b n` is `r * b ^ n`, with the factors of `b`'s powers taken
in the order of the bits of `n`, lowest first. The fuel bounds the number of bits. -/
def powLoop : Nat → α → α → Nat → α
  | 0, r, _, _ => r
  | fuel + 1, r, b, n =>
    let r := if n % 2 = 1 then r * b else r
    if n / 2 = 0 then r else powLoop fuel r (b * b) (n / 2)

/-- A natural power by repeated squaring. -/
def pow (b : α) (n : Nat) : α := powLoop (n.log2 + 1) one b n

/-- An integer power; a negative one is the reciprocal of the power of the magnitude. -/
def zpow (b : α) (n : Int) : α :=
  let r := pow b n.natAbs
  if n < 0 then one / r else r

end Number

/-- The least whole double that is not smaller. From `2 ^ 53` on every double is whole; below, the
double is cut to a word and one is added if something was cut off. -/
def Number.ceilDouble (x : Float) : Float :=
  if x.abs < Float.ofNat (Nat.pow 2 53) then
    if x < Float.ofNat 0 then
      -(-x).toUInt64.toFloat
    else if Float.ofNat 0 < x then
      let whole := x.toUInt64.toFloat
      if whole < x then whole + Float.ofNat 1 else whole
    else x
  else x

instance : Number Float where
  ofNat := Float.ofNat
  decimal digits places := Float.ofScientific digits true places
  abs := Float.abs
  isFinite := Float.isFinite
  ceil := Number.ceilDouble
  toNat x := x.toUInt64.toNat

instance : Number Rat where
  ofNat n := n
  decimal digits places := (digits : Rat) / (Nat.pow 10 places : Nat)
  abs := Rat.abs
  isFinite _ := true
  ceil x := x.ceil
  toNat x := x.floor.toNat

end RootFinding
