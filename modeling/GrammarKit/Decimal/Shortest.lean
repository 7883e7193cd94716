import GrammarKit.Decimal
import GrammarKit.Decimal.Binary64

/-!
# The shortest decimals

Of the decimals that round to a number of double precision, the one with the fewest digits stands for
it; of several, the nearest. Whole multiples of a power of ten are tried from coarse to fine, and the
first power wins that has a multiple in the interval that rounds to the number. The interval has its
ends exactly if the number is even in its last binary digit.
-/

namespace GrammarKit.Binary64

/-- The whole numbers that compare as `d * 10 ^ k` and `x * 2 ^ p` do. -/
def sides (d : Nat) (k : Int) (x : Nat) (p : Int) : Nat × Nat :=
  (d * Nat.pow 10 k.toNat * Nat.pow 2 (-p).toNat, x * Nat.pow 2 p.toNat * Nat.pow 10 (-k).toNat)

/-- Whether `d * 10 ^ k` rounds to `m * 2 ^ q`. Quarters of the last binary digit measure the interval,
which is shorter below a power of two. -/
def roundsTo (m : Nat) (q : Int) (d : Nat) (k : Int) : Bool :=
  let below := if m = Nat.pow 2 52 ∧ leastExponent < q then 1 else 2
  let (value, low) := sides d k (4 * m - below) (q - 2)
  let (_, high) := sides d k (4 * m + 2) (q - 2)
  if m % 2 = 0 then low ≤ value && value ≤ high else low < value && value < high

/-- The multiple of a power of ten that is nearest to `m * 2 ^ q` among those that round to it; of two
that are equally near, the even one. -/
def multiple? (m : Nat) (q : Int) (k : Int) : Option Nat :=
  let (step, value) := sides 1 k m q
  let d := value / step
  let up := d + 1
  let lowerFirst := 2 * (value % step) < step || (2 * (value % step) == step && d % 2 == 0)
  (if lowerFirst then [d, up] else [up, d]).find? fun d => d != 0 && roundsTo m q d k

/-- The decimal `d * 10 ^ k`. -/
def decimalOf (negative : Bool) (d : Nat) (k : Int) : Decimal :=
  ⟨negative, d * Nat.pow 10 k.toNat, (-k).toNat⟩

/-- The number of decimal places beyond the first digit that are ever needed, with some to spare. -/
def searchDepth : Nat := 20

/-- The shortest decimal that rounds to the number `m * 2 ^ q`. -/
def shortest? (negative : Bool) (m : Nat) (q : Int) : Option Decimal :=
  if m = 0 then some ⟨negative, 0, 0⟩
  else
    let (den, num) := sides 1 0 m q
    let top : Int := (Nat.toDigits 10 num).length - (Nat.toDigits 10 den).length + 1
    (List.range searchDepth).findSome? fun (i : Nat) =>
      (multiple? m q (top - i)).map fun d => decimalOf negative d (top - i)

/-- The shortest decimal of a number; none where the number is not finite. -/
def decimal? : Binary64 → Option Decimal
  | .finite negative m q => shortest? negative m q
  | _ => none

end GrammarKit.Binary64
