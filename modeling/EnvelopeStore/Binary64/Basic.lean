import EnvelopeStore.Text.Basic

/-!
# Double-precision numbers

The 64-bit binary format as its three fields. Every finite number is a whole multiple of
`2 ^ (-1074)`, so magnitudes are compared and rounded in natural numbers: `scaled` is the magnitude
in that unit.
-/

namespace EnvelopeStore

/-- A double-precision number, by sign, biased exponent and fraction. -/
structure Binary64 where
  negative : Bool
  exponent : Fin 2048
  fraction : Fin 4503599627370496
deriving DecidableEq

namespace Binary64

def hiddenBit : Nat := 4503599627370496

def nan : Binary64 := ⟨false, 2047, 2251799813685248⟩

def infinite (negative : Bool) : Binary64 := ⟨negative, 2047, 0⟩

def zero (negative : Bool) : Binary64 := ⟨negative, 0, 0⟩

def isNaN (x : Binary64) : Bool := x.exponent == 2047 && x.fraction != 0

def isInfinite (x : Binary64) : Bool := x.exponent == 2047 && x.fraction == 0

def isFinite (x : Binary64) : Bool := x.exponent != 2047

def isZero (x : Binary64) : Bool := x.exponent == 0 && x.fraction == 0

/-- The significand of a finite number, as a natural number below `2 ^ 53`. -/
def significand (x : Binary64) : Nat :=
  if x.exponent = 0 then x.fraction else hiddenBit + x.fraction

/-- The place of the last bit of the significand, as a power of two in units of `2 ^ (-1074)`. -/
def place (x : Binary64) : Nat := x.exponent - 1

/-- The magnitude of a finite number in units of `2 ^ (-1074)`. -/
def scaled (x : Binary64) : Nat := x.significand * Nat.pow 2 x.place

def unitsPerOne : Nat := Nat.pow 2 1074

def equalsInt (x : Binary64) (n : Int) : Bool :=
  x.isFinite && (if x.negative then -(x.scaled : Int) else x.scaled) == n * unitsPerOne

/-- Whether two numbers are equal: the two zeros are, and what is no number equals nothing. -/
def equals (x y : Binary64) : Bool := !x.isNaN && (x == y || (x.isZero && y.isZero))

def truncate (x : Binary64) : Int :=
  if x.negative then -((x.scaled / unitsPerOne : Nat) : Int) else (x.scaled / unitsPerOne : Nat)

def isBelowOne (x : Binary64) : Bool :=
  !x.isNaN && (x.negative || (x.isFinite && x.scaled < unitsPerOne))

/-- The quotient of two numbers rounded to the nearest whole number, to the even one of two. -/
def divRoundEven (num den : Nat) : Nat :=
  let q := num / den
  let r := num % den
  if 2 * r < den then q
  else if den < 2 * r then q + 1
  else if q % 2 = 0 then q else q + 1

/-- The number with the given significand, at most `2 ^ 53`, and place; infinite when too large. -/
def ofSignificand (negative : Bool) (significand place : Nat) : Binary64 :=
  if significand < hiddenBit then ⟨negative, 0, Fin.ofNat _ significand⟩
  else
    let (exponent, fraction) :=
      if significand = 2 * hiddenBit then (place + 2, 0) else (place + 1, significand - hiddenBit)
    if exponent < 2047 then ⟨negative, Fin.ofNat _ exponent, Fin.ofNat _ fraction⟩
    else infinite negative

/-- The number nearest to a quotient, a tie going to the even significand. -/
def nearest (negative : Bool) (num den : Nat) : Binary64 :=
  let num := num * unitsPerOne
  let place := (num / den).log2 - 52
  ofSignificand negative (divRoundEven num (den * Nat.pow 2 place)) place

/-- The number nearest to `digits * 10 ^ exponent`. Decimals far outside the range of the format are
settled by their size alone, so that no large power of ten is formed for them. -/
def ofDecimal (negative : Bool) (digits : Nat) (exponent : Int) : Binary64 :=
  if digits = 0 then zero negative
  else
    let size : Int := (Nat.repr digits).length + exponent
    if 310 < size then infinite negative
    else if size < -330 then zero negative
    else match exponent with
      | .ofNat e => nearest negative (digits * Nat.pow 10 e) 1
      | .negSucc e => nearest negative digits (Nat.pow 10 (e + 1))

end Binary64

end EnvelopeStore
