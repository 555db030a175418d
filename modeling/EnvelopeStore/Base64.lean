import EnvelopeStore.Text.Basic

/-!
# Base64

The standard alphabet with padding. Reading is strict about foreign characters and about padding,
but two liberties remain: padding may follow a complete group, and the unused bits of the last
character may be set. Whoever needs one text for each content compares with `encode`.
-/

namespace EnvelopeStore.Base64

def digit (n : Nat) : CodePoint :=
  if n < 26 then CodePoint.ofNat (65 + n)
  else if n < 52 then CodePoint.ofNat (71 + n)
  else if n < 62 then CodePoint.ofNat (n - 4)
  else if n = 62 then '+'
  else '/'

def value? (c : CodePoint) : Option Nat :=
  let n := c.val
  if 65 ≤ n ∧ n ≤ 90 then some (n - 65)
  else if 97 ≤ n ∧ n ≤ 122 then some (n - 71)
  else if 48 ≤ n ∧ n ≤ 57 then some (n + 4)
  else if c = '+' then some 62
  else if c = '/' then some 63
  else none

def isDigit (c : CodePoint) : Bool := (value? c).isSome

/-- The text of bytes: four characters for three bytes, the last group filled up with padding. -/
def encode : Bytes → Text
  | a :: b :: c :: rest =>
    let n := a.toNat * 0x10000 + b.toNat * 0x100 + c.toNat
    digit (n / 0x40000) :: digit (n / 0x1000 % 0x40) :: digit (n / 0x40 % 0x40) ::
      digit (n % 0x40) :: encode rest
  | [a, b] =>
    let n := a.toNat * 0x100 + b.toNat
    [digit (n / 0x400), digit (n / 0x10 % 0x40), digit (n * 4 % 0x40), '=']
  | [a] => [digit (a.toNat / 4), digit (a.toNat * 0x10 % 0x40), '=', '=']
  | [] => []

/-- Why a text is not read. -/
inductive Fault
  | notAscii
  | leadingPadding
  | excessData
  | foreignCharacter
  | discontinuousPadding
  | characterOver (count : Nat)
  | incompletePadding
deriving DecidableEq

def Fault.message : Fault → Text
  | .notAscii => "string argument should contain only ASCII characters"
  | .leadingPadding => "Leading padding not allowed"
  | .excessData => "Excess data after padding"
  | .foreignCharacter => "Only base64 data is allowed"
  | .discontinuousPadding => "Discontinuous padding not allowed"
  | .characterOver count =>
    "Invalid base64-encoded string: number of data characters (" ++ Text.ofNat count ++
      ") cannot be 1 more than a multiple of 4"
  | .incompletePadding => "Incorrect padding"

/-- What is wrong with the text after `count` characters of data and `pads` of padding. Padding that
completes the last group ends the text; any other is passed over. -/
def paddingFault? (count pads : Nat) : Text → Option Fault
  | [] =>
    match count % 4 with
    | 0 => none
    | 1 => some (.characterOver count)
    | _ => some .incompletePadding
  | c :: rest =>
    if c = '=' then
      if 2 ≤ count % 4 ∧ 4 ≤ count % 4 + (pads + 1) then
        if rest.isEmpty then none else some .excessData
      else paddingFault? count (pads + 1) rest
    else if isDigit c then some .discontinuousPadding
    else some .foreignCharacter

/-- The bytes that the values of characters spell. Bits that fill no byte are dropped. -/
def ofValues : List Nat → Bytes
  | a :: b :: c :: d :: rest =>
    UInt8.ofNat (a * 4 + b / 16) :: UInt8.ofNat (b % 16 * 16 + c / 4) ::
      UInt8.ofNat (c % 4 * 64 + d) :: ofValues rest
  | [a, b, c] => [UInt8.ofNat (a * 4 + b / 16), UInt8.ofNat (b % 16 * 16 + c / 4)]
  | [a, b] => [UInt8.ofNat (a * 4 + b / 16)]
  | _ => []

def decodeCharacters (t : Text) : Except Fault Bytes :=
  if t.head? = some ('=' : CodePoint) then .error .leadingPadding
  else
    let (data, rest) := t.span isDigit
    match paddingFault? data.length 0 rest with
    | some fault => .error fault
    | none => .ok (ofValues (data.filterMap value?))

def decode (t : Text) : Except Fault Bytes :=
  if t.all (·.isAscii) then decodeCharacters t else .error .notAscii

def decodeBytes (bytes : Bytes) : Except Fault Bytes :=
  decodeCharacters (bytes.map fun b => CodePoint.ofNat b.toNat)

end EnvelopeStore.Base64
