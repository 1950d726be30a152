/-!
# Quantities and decimal places

The number that a floating-point text denotes (`Quantity.read`). A text with a fraction or an
exponent denotes the binary double nearest to it, ties going to the even neighbour, so `1e+23` is not
ten to the power of twenty-three; all comparisons are exact.

The other way round, numbers are written with a given count of decimal places, rounded exactly: what
is cut off decides, and a half goes to the even neighbour. A number is written with all places in
fixed notation (`Places.fixed`), with one digit in front of the point and an exponent in scientific
notation (`Places.scientific`), and in the general notation with whichever of the two fits its size
(`Places.general`).
-/

namespace SafeLookup

/-- A floating-point number: a rational, one of the two infinities, or no number at all. -/
inductive Quantity where
  | finite (value : Rat)
  | infinite (negative : Bool)
  | undefined
  deriving DecidableEq, Repr

namespace Quantity

/-- Numbers agree when they are equal as reals; what is no number agrees with nothing. -/
def agrees : Quantity → Quantity → Bool
  | finite a, finite b => a == b
  | infinite a, infinite b => a == b
  | _, _ => false

/-- Whether the number is zero, of either sign. -/
def isZero : Quantity → Bool
  | finite a => a == 0
  | _ => false

/-! ### The nearest binary double -/

/-- A power with any whole exponent. -/
def power (base : Nat) (e : Int) : Rat :=
  if 0 ≤ e then (Nat.pow base e.toNat : Rat) else mkRat 1 (Nat.pow base (-e).toNat)

/-- The nearest integer, a half going to the even neighbour. -/
def roundHalfEven (q : Rat) : Int :=
  let below := q.floor
  let rest := q - below
  if rest < mkRat 1 2 then below
  else if mkRat 1 2 < rest then below + 1
  else if below % 2 = 0 then below
  else below + 1

/-- The exponent of the highest power of two that a positive rational reaches. -/
def binaryExponent (q : Rat) : Int :=
  let guess := (q.num.toNat.log2 : Int) - (q.den.log2 : Int)
  if power 2 guess ≤ q then guess else guess - 1

/-- The binary double nearest to a rational that is not negative: a whole number of units, where
the unit leaves 53 binary digits and is never finer than that of the subnormal numbers. -/
def nearestDouble (q : Rat) : Rat :=
  if q ≤ 0 then 0
  else
    let unit := power 2 (max (binaryExponent q - 52) (-1074))
    (roundHalfEven (q / unit) : Rat) * unit

/-! ### Reading -/

/-- A decimal exponent: an optional sign and digits. -/
def readExponent : List Char → Int
  | '-' :: cs => -(Nat.ofDigitChars 10 cs 0 : Int)
  | '+' :: cs => Nat.ofDigitChars 10 cs 0
  | cs => Nat.ofDigitChars 10 cs 0

/-- The rational that an unsigned decimal text denotes. -/
def readDecimal (cs : List Char) : Rat :=
  let mantissa := cs.takeWhile (· != 'e')
  let exponent := readExponent ((cs.dropWhile (· != 'e')).drop 1)
  let whole := mantissa.takeWhile Char.isDigit
  let fraction := (mantissa.dropWhile Char.isDigit).drop 1
  let digits := Nat.ofDigitChars 10 (whole ++ fraction) 0
  (digits : Rat) * power 10 (exponent - fraction.length)

/-- The number of an unsigned floating-point text. -/
def readUnsigned (negative : Bool) (cs : List Char) : Quantity :=
  if cs == ['n', 'a', 'n'] then undefined
  else if cs == ['i', 'n', 'f'] then infinite negative
  else
    let value := nearestDouble (readDecimal cs)
    finite (if negative then -value else value)

/-- The number of a floating-point text. -/
def read : List Char → Quantity
  | '-' :: cs => readUnsigned true cs
  | '+' :: cs => readUnsigned false cs
  | cs => readUnsigned false cs

/-- The two parts of a complex text, read from its end: the sign of the second part is the last
sign that does not belong to an exponent. -/
def splitParts (second : List Char) : List Char → Option (List Char × List Char)
  | [] => none
  | [_] => none
  | c :: before :: rest =>
    if (c == '+' || c == '-') && before != 'e' then
      some ((before :: rest).reverse, c :: second)
    else splitParts (c :: second) (before :: rest)

/-- The real and the imaginary part of a complex text. A text without parentheses has an imaginary
part only. -/
def readComplex (cs : List Char) : Quantity × Quantity :=
  let body := cs.filter fun c => c != '(' && c != ')' && c != 'j'
  match splitParts [] body.reverse with
  | some (re, im) => (read re, read im)
  | none => (finite 0, read body)

end Quantity

/-! ### Decimal places -/

namespace Places

/-- The exponent of the highest power of ten that a positive rational reaches. -/
def decimalExponent (q : Rat) : Int :=
  let guess := ((Nat.toDigits 10 q.num.toNat).length : Int) - (Nat.toDigits 10 q.den).length
  if Quantity.power 10 guess ≤ q then guess else guess - 1

/-- Digits with a point in front of the last `places` of them. A point that no digit follows is
written only on demand. -/
def withPoint (places : Nat) (pointed : Bool) (digits : List Char) : List Char :=
  let filled := List.replicate (places + 1 - digits.length) '0' ++ digits
  let whole := filled.take (filled.length - places)
  let rest := filled.drop (filled.length - places)
  if rest.isEmpty && !pointed then whole else whole ++ '.' :: rest

/-- A rational that is not negative, in fixed notation. -/
def fixed (places : Nat) (pointed : Bool) (q : Rat) : List Char :=
  withPoint places pointed
    (Nat.toDigits 10 (Quantity.roundHalfEven (q * Quantity.power 10 places)).toNat)

/-- The digits of a rational that is not negative, all places included, and its exponent. -/
def significant (places : Nat) (q : Rat) : Nat × Int :=
  if q ≤ 0 then (0, 0)
  else
    let e := decimalExponent q
    let digits := (Quantity.roundHalfEven (q * Quantity.power 10 (places - e))).toNat
    if digits = Nat.pow 10 (places + 1) then (Nat.pow 10 places, e + 1) else (digits, e)

/-- An exponent with its sign and at least two digits. -/
def exponentText (e : Int) : List Char :=
  let digits := Nat.toDigits 10 e.natAbs
  (if e < 0 then '-' else '+') :: (List.replicate (2 - digits.length) '0' ++ digits)

/-- A rational that is not negative, in scientific notation. -/
def scientific (places : Nat) (pointed : Bool) (q : Rat) : List Char :=
  let (digits, e) := significant places q
  withPoint places pointed (Nat.toDigits 10 digits) ++ 'e' :: exponentText e

/-- Removes the zeros at the end of a fraction, and the point if nothing is left behind it. -/
def stripZeros (cs : List Char) : List Char :=
  if cs.contains '.' then
    match cs.reverse.dropWhile (· == '0') with
    | '.' :: whole => whole.reverse
    | rest => rest.reverse
  else cs

/-- A rational that is not negative, with so many significant digits. Zeros at the end of the
fraction are kept only on demand. -/
def general (digits : Nat) (kept : Bool) (q : Rat) : List Char :=
  let digits := max digits 1
  let (shown, e) := significant (digits - 1) q
  let strip := if kept then id else stripZeros
  if -4 ≤ e ∧ e < digits then strip (fixed ((digits - 1 : Int) - e).toNat kept q)
  else
    strip (withPoint (digits - 1) kept (Nat.toDigits 10 shown)) ++ 'e' :: exponentText e

end Places

end SafeLookup
