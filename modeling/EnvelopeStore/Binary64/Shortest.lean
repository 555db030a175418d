import EnvelopeStore.Binary64.Basic

/-!
# Shortest decimal text

The fewest decimal digits that are read back as the same number, the nearest to it among those, and
the text that is written with them.
-/

namespace EnvelopeStore.Binary64

/-- The decimals that are read as a given positive number: an interval around it, all three numbers
in units of `2 ^ (-1076)`, with its ends included or not. -/
structure Interval where
  low : Nat
  value : Nat
  high : Nat
  closed : Bool

def Interval.unitsPerOne : Nat := Nat.pow 2 1076

/-- Half the gap to the neighbour on either side; below a power of two the gap is half as wide. -/
def interval (x : Binary64) : Interval :=
  let unit := Nat.pow 2 x.place
  let value := 4 * x.scaled
  let below := if x.fraction.val = 0 ∧ 1 < x.exponent.val then unit else 2 * unit
  ⟨value - below, value, value + 2 * unit, x.significand % 2 = 0⟩

/-- The decimal `digits * 10 ^ exponent`. -/
structure Decimal where
  digits : Nat
  exponent : Int

/-- The place of the first digit: the value is at least a tenth of `10 ^ magnitude`, and less than
that power. -/
def Interval.magnitude (i : Interval) : Int :=
  if i.value < unitsPerOne then 1 - (Nat.repr (unitsPerOne / i.value)).length
  else (Nat.repr (i.value / unitsPerOne)).length

/-- The decimal with `count` digits that is nearest to the value, if it lies in the interval; of two
equally near ones that with an even last digit. -/
def Interval.candidate? (i : Interval) (count : Nat) : Option Decimal :=
  let exponent := i.magnitude - count
  let up := Nat.pow 10 (-exponent).toNat
  let step := unitsPerOne * Nat.pow 10 exponent.toNat
  let inside (d : Nat) : Bool :=
    if i.closed then i.low * up ≤ d * step && d * step ≤ i.high * up
    else i.low * up < d * step && d * step < i.high * up
  let below := i.value * up / step
  let rest := i.value * up % step
  let above := below + 1
  match inside below, inside above with
  | false, false => none
  | true, false => some ⟨below, exponent⟩
  | false, true => some ⟨above, exponent⟩
  | true, true =>
    if 2 * rest < step ∨ (2 * rest = step ∧ below % 2 = 0) then some ⟨below, exponent⟩
    else some ⟨above, exponent⟩

/-- The decimal with the fewest digits that is read back as `x`, a finite number other than zero. -/
def shortest (x : Binary64) : Decimal :=
  let i := x.interval
  ((List.range 17).findSome? fun n => i.candidate? (n + 1)).getD ⟨x.significand, 0⟩

/-- A layout of decimals in text. -/
structure Layout where
  leastPositional : Int
  endPositional : Int
  exponentWidth : Nat
  nan : Text
  infinity : Text

/-- The layout of numbers in messages: positional from `10 ^ (-4)` up to `10 ^ 16`. -/
def Layout.display : Layout := ⟨-4, 16, 2, "nan", "inf"⟩

def Layout.document : Layout := ⟨-4, 16, 2, "NaN", "Infinity"⟩

def zeros (n : Nat) : Text := List.replicate n '0'

/-- The text of a decimal: a point is always written in positional notation, and never without a
digit on both sides. -/
def Layout.decimal (l : Layout) (d : Decimal) : Text :=
  let ds := (Text.ofNat d.digits).reverse.dropWhile (· = ('0' : CodePoint)) |>.reverse
  let dropped := (Text.ofNat d.digits).length - ds.length
  let last : Int := d.exponent + dropped
  let first : Int := last + ds.length - 1
  if l.leastPositional ≤ first ∧ first < l.endPositional then
    if first < 0 then "0." ++ zeros (-first - 1).toNat ++ ds
    else if last < 0 then ds.take (first.toNat + 1) ++ "." ++ ds.drop (first.toNat + 1)
    else ds ++ zeros last.toNat ++ ".0"
  else
    let mantissa : Text := match ds with
      | d :: e :: rest => d :: '.' :: e :: rest
      | short => short
    let size := Text.ofNat first.natAbs
    let sign : CodePoint := if first < 0 then '-' else '+'
    mantissa ++ "e" ++ [sign] ++ zeros (l.exponentWidth - size.length) ++ size

def Layout.text (l : Layout) (x : Binary64) : Text :=
  if x.isNaN then l.nan
  else
    let magnitude : Text :=
      if x.isInfinite then l.infinity
      else if x.isZero then "0.0"
      else l.decimal x.shortest
    if x.negative then '-' :: magnitude else magnitude

end EnvelopeStore.Binary64
