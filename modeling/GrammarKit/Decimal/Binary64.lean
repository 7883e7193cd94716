/-!
# Double precision

Numbers of 53 binary digits. A finite number is kept as a whole number times a power of two, and
what has to be rounded is rounded once, from an exact quotient, to the nearest number; a half goes to
the even neighbour.
-/

namespace GrammarKit

/-- A number of double precision; a finite one is `m * 2 ^ q` with a sign. -/
inductive Binary64 where
  | finite (negative : Bool) (m : Nat) (q : Int)
  | infinite (negative : Bool)
  | nan
  deriving Repr, DecidableEq

namespace Binary64

/-- The least exponent. -/
def leastExponent : Int := -1074

/-- The whole number nearest to a quotient; of two that are equally near, the even one. -/
def nearest (num den : Nat) : Nat :=
  let q := num / den
  let r := num % den
  if 2 * r < den ∨ (2 * r = den ∧ q % 2 = 0) then q else q + 1

/-- The quotient divided by the power of two of an exponent. -/
def scaled (num den : Nat) (q : Int) : Nat × Nat :=
  (num * Nat.pow 2 (-q).toNat, den * Nat.pow 2 q.toNat)

/-- The exponent at which a quotient above zero has 53 binary digits, or the least one. -/
def exponentOf (num den : Nat) : Int :=
  let guess : Int := num.log2 - den.log2 - 52
  let (n, d) := scaled num den guess
  max leastExponent (if n / d < Nat.pow 2 52 then guess - 1 else guess)

/-- The number nearest to a quotient. -/
def ofQuotient (negative : Bool) (num den : Nat) : Binary64 :=
  if num = 0 then .finite negative 0 leastExponent
  else
    let q := exponentOf num den
    let (n, d) := scaled num den q
    let rounded := nearest n d
    let (m, q) := if rounded = Nat.pow 2 53 then (Nat.pow 2 52, q + 1) else (rounded, q)
    if 971 < q then .infinite negative else .finite negative m q

/-- The number nearest to `digits * 10 ^ exponent`. -/
def ofDecimal (negative : Bool) (digits : Nat) (exponent : Int) : Binary64 :=
  let width : Int := (Nat.toDigits 10 digits).length
  if digits = 0 ∨ width + exponent < -400 then .finite negative 0 leastExponent
  else if 400 < width + exponent then .infinite negative
  else ofQuotient negative (digits * Nat.pow 10 exponent.toNat) (Nat.pow 10 (-exponent).toNat)

/-- The product of two numbers. -/
def mul : Binary64 → Binary64 → Binary64
  | .finite s m p, .finite t n q =>
    ofQuotient (s != t) (m * n * Nat.pow 2 (p + q).toNat) (Nat.pow 2 (-(p + q)).toNat)
  | .infinite s, .finite t n _ => if n = 0 then .nan else .infinite (s != t)
  | .finite s m _, .infinite t => if m = 0 then .nan else .infinite (s != t)
  | .infinite s, .infinite t => .infinite (s != t)
  | _, _ => .nan

/-- The number that digits write. -/
def digitsValue (cs : List Char) : Nat :=
  cs.foldl (fun n c => 10 * n + (c.toNat - 48)) 0

/-- The exponent behind the mark, if the text has one and ends with it. -/
def exponent? : List Char → Option Int
  | [] => some 0
  | c :: cs =>
    if c = 'e' ∨ c = 'E' then
      let (negative, ds) := match cs with
        | '+' :: ds => (false, ds)
        | '-' :: ds => (true, ds)
        | ds => (false, ds)
      if ds.isEmpty || !ds.all Char.isDigit then none
      else some (if negative then -(digitsValue ds : Int) else digitsValue ds)
    else none

/-- The number nearest to the one that a text without a sign writes: digits, which may have a point
among them and an exponent behind them, or the name of an infinite number or of none. -/
def ofUnsigned? (negative : Bool) (cs : List Char) : Option Binary64 :=
  let word := String.ofList (cs.map Char.toLower)
  if word = "inf" ∨ word = "infinity" then some (.infinite negative)
  else if word = "nan" then some .nan
  else
    let whole := cs.takeWhile Char.isDigit
    let (places, rest) := match cs.dropWhile Char.isDigit with
      | '.' :: rest => (rest.takeWhile Char.isDigit, rest.dropWhile Char.isDigit)
      | rest => ([], rest)
    if whole.isEmpty && places.isEmpty then none
    else do
      let e ← exponent? rest
      return ofDecimal negative (digitsValue (whole ++ places)) (e - places.length)

/-- The number nearest to the one that a text writes. -/
def ofText? (s : String) : Option Binary64 :=
  match s.toList with
  | '+' :: cs => ofUnsigned? false cs
  | '-' :: cs => ofUnsigned? true cs
  | cs => ofUnsigned? false cs

end Binary64

end GrammarKit
