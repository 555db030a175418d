/-!
# Text

A text is a list of code points. Surrogates count as code points of their own, so a text may hold
characters that no Unicode encoding can carry; the rules for encodings, escapes and classes live in
the modules beside this one.
-/

namespace EnvelopeStore

/-- A Unicode code point, surrogates included. -/
structure CodePoint where
  val : Nat
  isLt : val < 0x110000
deriving DecidableEq

namespace CodePoint

theorem char_lt (c : Char) : c.toNat < 0x110000 := by
  have h := c.valid
  change c.val.toNat < 0x110000
  simp only [UInt32.isValidChar, Nat.isValidChar] at h
  omega

def ofChar (c : Char) : CodePoint := ⟨c.toNat, char_lt c⟩

instance : Coe Char CodePoint := ⟨ofChar⟩

/-- The code point with the given number; numbers past the last one give U+FFFD. -/
def ofNat (n : Nat) : CodePoint :=
  if h : n < 0x110000 then ⟨n, h⟩ else ⟨0xFFFD, by decide⟩

@[simp] theorem ofNat_val (c : CodePoint) : ofNat c.val = c := by
  simp [ofNat, c.isLt]

theorem val_ofNat {n : Nat} (h : n < 0x110000) : (ofNat n).val = n := by
  simp [ofNat, h]

def isHighSurrogate (c : CodePoint) : Bool := 0xD800 ≤ c.val && c.val ≤ 0xDBFF

def isLowSurrogate (c : CodePoint) : Bool := 0xDC00 ≤ c.val && c.val ≤ 0xDFFF

def isSurrogate (c : CodePoint) : Bool := 0xD800 ≤ c.val && c.val ≤ 0xDFFF

def pair (high low : CodePoint) : CodePoint :=
  ofNat (0x10000 + (high.val - 0xD800) * 0x400 + (low.val - 0xDC00))

def char? (c : CodePoint) : Option Char :=
  if c.isSurrogate then none else some (Char.ofNat c.val)

@[simp] theorem isSurrogate_ofChar (c : Char) : (ofChar c).isSurrogate = false := by
  have h := c.valid
  have hv : (ofChar c).val = c.val.toNat := rfl
  simp only [UInt32.isValidChar, Nat.isValidChar] at h
  simp only [isSurrogate, hv, Bool.and_eq_false_iff, decide_eq_false_iff_not]
  omega

@[simp] theorem char?_ofChar (c : Char) : (ofChar c).char? = some c := by
  have hv : (ofChar c).val = c.toNat := rfl
  rw [char?, isSurrogate_ofChar, hv]
  simp

theorem ofChar_injective {a b : Char} (h : ofChar a = ofChar b) : a = b := by
  have := congrArg char? h
  simpa using this

def isAscii (c : CodePoint) : Bool := c.val < 128

def isAsciiDigit (c : CodePoint) : Bool := 48 ≤ c.val && c.val ≤ 57

end CodePoint

/-- A sequence of code points. -/
abbrev Text := List CodePoint

abbrev Bytes := List UInt8

namespace Text

def ofString (s : String) : Text := s.toList.map CodePoint.ofChar

instance : Coe String Text := ⟨ofString⟩

/-- Order by code point, a proper beginning before its continuations. -/
def le : Text → Text → Bool
  | [], _ => true
  | _ :: _, [] => false
  | a :: s, b :: t => a.val < b.val || (a.val == b.val && le s t)

def sort (ts : List Text) : List Text := ts.mergeSort le

def startsWith (t start : Text) : Bool := start.isPrefixOf t

def hasPart (part : Text) : Text → Bool
  | [] => part.isEmpty
  | c :: t => startsWith (c :: t) part || hasPart part t

def replaceAll (old : CodePoint) (new t : Text) : Text :=
  t.flatMap fun c => if c = old then new else [c]

def dropWhileEnd (p : CodePoint → Bool) (t : Text) : Text :=
  (t.reverse.dropWhile p).reverse

/-- The text without the characters at both ends that satisfy `p`. -/
def strip (p : CodePoint → Bool) (t : Text) : Text := dropWhileEnd p (t.dropWhile p)

/-- The parts between the occurrences of `sep`: one more than there are occurrences. -/
def segments (sep : CodePoint) : Text → List Text
  | [] => [[]]
  | c :: t =>
    if c = sep then [] :: segments sep t
    else match segments sep t with
      | [] => [[c]]
      | s :: ss => (c :: s) :: ss

def join (sep : Text) (parts : List Text) : Text := sep.intercalate parts

/-- Parts in a sentence: with commas between them when there are more than two, and a conjunction
before the last one. -/
def enumeration : List Text → Text
  | [] => []
  | [a] => a
  | [a, b] => a ++ ofString " and " ++ b
  | a :: b :: c :: rest =>
    let parts := a :: b :: c :: rest
    join (ofString ", ") parts.dropLast ++ ofString ", and " ++ (parts.getLast?.getD [])

/-- Each high surrogate directly followed by a low one becomes the character that they encode. -/
def joinPairs : Text → Text
  | a :: b :: rest =>
    if a.isHighSurrogate && b.isLowSurrogate then CodePoint.pair a b :: joinPairs rest
    else a :: joinPairs (b :: rest)
  | t => t

def ofNat (n : Nat) : Text := ofString (Nat.repr n)

def ofInt : Int → Text
  | .ofNat n => ofNat n
  | .negSucc n => CodePoint.ofChar '-' :: ofNat (n + 1)

def hexDigit (n : Nat) : CodePoint :=
  CodePoint.ofNat (if n < 10 then 48 + n else 87 + n)

def hex : (width : Nat) → Nat → Text
  | 0, _ => []
  | width + 1, n => hex width (n / 16) ++ [hexDigit (n % 16)]

def hexValue? (c : CodePoint) : Option Nat :=
  if 48 ≤ c.val ∧ c.val ≤ 57 then some (c.val - 48)
  else if 97 ≤ c.val ∧ c.val ≤ 102 then some (c.val - 87)
  else if 65 ≤ c.val ∧ c.val ≤ 70 then some (c.val - 55)
  else none

end Text

end EnvelopeStore
