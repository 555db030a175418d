import EnvelopeStore.Text.Blank
import EnvelopeStore.Text.Digit

/-!
# Integer numerals

Reading of a whole number from a setting: white space around it, an optional sign, and digits of any
script, with a single underscore allowed between two digits.
-/

namespace EnvelopeStore.Text

def maxDigits : Nat := 4300

def digitValues? : Text → Option (List Nat)
  | [] => none
  | c :: t =>
    match decimalValue? c with
    | none => none
    | some d =>
      match t with
      | [] => some [d]
      | u :: t' =>
        (if u = '_' then digitValues? t' else digitValues? (u :: t')).map (d :: ·)

def ofDigitValues (ds : List Nat) : Nat := ds.foldl (fun n d => 10 * n + d) 0

def natural? (t : Text) : Option Nat :=
  match digitValues? t with
  | none => none
  | some ds => if ds.length ≤ maxDigits then some (ofDigitValues ds) else none

def integer? (t : Text) : Option Int :=
  match strip isWhiteSpace t with
  | [] => none
  | c :: rest =>
    if c = '-' then (natural? rest).map fun n => -(n : Int)
    else if c = '+' then (natural? rest).map fun n => (n : Int)
    else (natural? (c :: rest)).map fun n => (n : Int)

end EnvelopeStore.Text
