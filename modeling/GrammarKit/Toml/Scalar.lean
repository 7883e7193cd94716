/-!
# TOML scalars

The forms of numbers, truth values, dates and times. Nothing is computed beyond what decides whether a
text has one of these forms and names a number in range or a day of the calendar.
-/

namespace GrammarKit.Toml

/-- Whether a text is made of digits of a base, with single underscores between them. -/
def isDigitGroups (isDigit : Char → Bool) : List Char → Bool
  | [] => false
  | [c] => isDigit c
  | c :: '_' :: cs => isDigit c && isDigitGroups isDigit cs
  | c :: cs => isDigit c && isDigitGroups isDigit cs

/-- The value of a digit in any base up to 16. -/
def digitValue (c : Char) : Nat :=
  if c.isDigit then c.toNat - 48 else c.toLower.toNat - 87

/-- The number that digits of a base write, underscores aside. -/
def valueOf (base : Nat) (cs : List Char) : Nat :=
  (cs.filter (· ≠ '_')).foldl (fun n c => base * n + digitValue c) 0

/-- Whether a digit belongs to a base up to 16. -/
def isDigitOf (base : Nat) (c : Char) : Bool :=
  (c.isDigit || ('a' ≤ c.toLower && c.toLower ≤ 'f')) && digitValue c < base

/-- A text without its sign, and whether the sign is a minus. -/
def dropSign : List Char → Bool × List Char
  | '+' :: cs => (false, cs)
  | '-' :: cs => (true, cs)
  | cs => (false, cs)

/-- Whether a text is a decimal integer without a sign: no zero comes first unless it is alone. -/
def isDecimal (cs : List Char) : Bool :=
  isDigitGroups Char.isDigit cs && (cs.head? != some '0' || cs.length == 1)

/-- Whether a text is an integer, within 128 bits. -/
def isInteger (cs : List Char) : Bool :=
  match cs with
  | '0' :: 'x' :: ds => isDigitGroups (isDigitOf 16) ds && valueOf 16 ds < Nat.pow 2 128
  | '0' :: 'o' :: ds => isDigitGroups (isDigitOf 8) ds && valueOf 8 ds < Nat.pow 2 128
  | '0' :: 'b' :: ds => isDigitGroups (isDigitOf 2) ds && valueOf 2 ds < Nat.pow 2 128
  | _ =>
    let (negative, ds) := dropSign cs
    isDecimal ds && (if negative then valueOf 10 ds ≤ Nat.pow 2 127 else valueOf 10 ds < Nat.pow 2 128)

/-- A text cut at the first character with the property `p`, which is dropped; `none` where there is no
such character. -/
def cutAt? (p : Char → Bool) (cs : List Char) : Option (List Char × List Char) :=
  match cs.dropWhile fun c => !p c with
  | [] => none
  | _ :: rest => some (cs.takeWhile fun c => !p c, rest)

/-- Whether the number of a float is within the range of double precision: its digits with `places` of
them behind the point, times ten to the power of the exponent. -/
def isInRange (digits : List Char) (places : Nat) (exponent : Int) : Bool :=
  let m := valueOf 10 digits
  let e : Int := exponent - places
  let bound := Nat.pow 2 1024 - Nat.pow 2 970
  if m = 0 then true
  else if 400 < e then false
  else if 0 ≤ e then m * Nat.pow 10 e.toNat < bound
  else if ((Nat.toDigits 10 m).length : Int) + e < 300 then true
  else m < bound * Nat.pow 10 (-e).toNat

/-- Whether a text is a float. -/
def isFloat (cs : List Char) : Bool :=
  let (_, body) := dropSign cs
  if body == ['i', 'n', 'f'] || body == ['n', 'a', 'n'] then true
  else
    let isExponent := fun c => c == 'e' || c == 'E'
    let (mantissa, exponent) := (cutAt? isExponent body).map (fun (a, b) => (a, some b))
      |>.getD (body, none)
    let (whole, fraction) := (cutAt? (· == '.') mantissa).map (fun (a, b) => (a, some b))
      |>.getD (mantissa, none)
    let exponentDigits := exponent.map dropSign
    let places := (fraction.getD []).filter (· ≠ '_')
    (fraction.isSome || exponent.isSome) && isDecimal whole &&
      fraction.all (isDigitGroups Char.isDigit) &&
      exponentDigits.all (fun (_, ds) => isDigitGroups Char.isDigit ds) &&
      isInRange (whole ++ places) places.length
        (exponentDigits.elim 0 fun (negative, ds) =>
          if negative then -(valueOf 10 ds : Int) else valueOf 10 ds)

/-- The number of two digits. -/
def twoDigits? (a b : Char) : Option Nat :=
  if a.isDigit && b.isDigit then some (10 * digitValue a + digitValue b) else none

/-- Whether a year has a leap day. -/
def isLeapYear (y : Nat) : Bool :=
  y % 4 == 0 && (y % 100 != 0 || y % 400 == 0)

/-- The number of days of a month. -/
def daysIn (y m : Nat) : Nat :=
  if m = 2 then (if isLeapYear y then 29 else 28)
  else if m = 4 ∨ m = 6 ∨ m = 9 ∨ m = 11 then 30
  else 31

/-- Whether a text is a day of the calendar. -/
def isDate : List Char → Bool
  | [a, b, c, d, '-', e, f, '-', g, h] =>
    match twoDigits? a b, twoDigits? c d, twoDigits? e f, twoDigits? g h with
    | some century, some year, some m, some day =>
      1 ≤ m && m ≤ 12 && 1 ≤ day && day ≤ daysIn (100 * century + year) m
    | _, _, _, _ => false
  | _ => false

/-- Whether a text is the rest of a time behind its minutes: seconds, which may have a fraction, or
nothing. -/
def isSeconds : List Char → Bool
  | [] => true
  | [':', a, b] => (twoDigits? a b).any (· ≤ 60)
  | ':' :: a :: b :: '.' :: fraction =>
    (twoDigits? a b).any (· ≤ 60) && !fraction.isEmpty && fraction.all Char.isDigit
  | _ => false

/-- Whether a text is a time of the day. -/
def isTime : List Char → Bool
  | a :: b :: ':' :: c :: d :: rest =>
    (twoDigits? a b).any (· ≤ 23) && (twoDigits? c d).any (· ≤ 59) && isSeconds rest
  | _ => false

/-- Whether a text is a distance from the universal time, up to a day. -/
def isOffset : List Char → Bool
  | [sign, a, b, ':', c, d] =>
    (sign == '+' || sign == '-') && (twoDigits? a b).any (· ≤ 24) && (twoDigits? c d).any (· ≤ 59)
  | _ => false

/-- Whether a text is a time of the day, which may tell its distance from the universal time. -/
def isTimeWithOffset (cs : List Char) : Bool :=
  isTime cs ||
    (match cs.getLast? with
      | some 'Z' | some 'z' => isTime cs.dropLast
      | _ => false) ||
    (isOffset (cs.drop (cs.length - 6)) && isTime (cs.take (cs.length - 6)))

/-- Whether a text is a date, a time or both. -/
def isDateTime (cs : List Char) : Bool :=
  isDate cs || isTime cs ||
    (isDate (cs.take 10) &&
      (match cs.drop 10 with
        | c :: time => (c == 'T' || c == 't' || c == ' ') && isTimeWithOffset time
        | [] => false))

/-- Whether a text is a scalar. -/
def isScalar (cs : List Char) : Bool :=
  cs == "true".toList || cs == "false".toList || isInteger cs || isFloat cs || isDateTime cs

end GrammarKit.Toml
