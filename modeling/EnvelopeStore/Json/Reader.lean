import EnvelopeStore.Json.Fault
import EnvelopeStore.Text.Numeral
import EnvelopeStore.Value.Basic

/-!
# Reading documents

The value that a JSON text denotes. The grammar is the usual one, with three additions: the names
of the numbers that are not finite, strings with lone surrogates, and integers of up to 4300
digits. Containers are read inside one another up to a fixed depth. Of two fields with one name the
last gives the value and the first the place.

The readers take the text from where they stand and give back what is left of it. Where reading
stops, the place of the fault is likewise what is left of the text.
-/

namespace EnvelopeStore.Json

/-- Why reading stopped. -/
inductive Stop
  | malformed (cause : Cause) (left : Text)
  | tooManyDigits (count : Nat)
  | tooDeep (container : Container)

def isBlank (c : CodePoint) : Bool := c.val == 0x20 || c.val == 9 || c.val == 10 || c.val == 13

def skipBlanks (t : Text) : Text := t.dropWhile isBlank

/-! ### Strings -/

/-- The number that four hexadecimal digits spell. -/
def hex4? : Text → Option (Nat × Text)
  | a :: b :: c :: d :: rest =>
    match Text.hexValue? a, Text.hexValue? b, Text.hexValue? c, Text.hexValue? d with
    | some a, some b, some c, some d => some (((a * 16 + b) * 16 + c) * 16 + d, rest)
    | _, _, _, _ => none
  | _ => none

/-- The text after the start of an escape by number, when at least five characters follow it. -/
def secondEscape? : Text → Option Text
  | b :: u :: rest => if b = '\\' ∧ u = 'u' ∧ rest.drop 4 ≠ [] then some rest else none
  | _ => none

def readUnicode (t : Text) : Except Stop (CodePoint × Text) :=
  match hex4? t with
  | none => .error (.malformed .invalidUnicodeEscape ('u' :: t))
  | some (_, []) => .error (.malformed .invalidUnicodeEscape ('u' :: t))
  | some (n, rest) =>
    let c := CodePoint.ofNat n
    if c.isHighSurrogate then
      match secondEscape? rest with
      | none => .ok (c, rest)
      | some rest' =>
        match hex4? rest' with
        | none => .error (.malformed .invalidUnicodeEscape ('u' :: rest'))
        | some (m, rest'') =>
          let d := CodePoint.ofNat m
          if d.isLowSurrogate then .ok (CodePoint.pair c d, rest'') else .ok (c, rest)
    else .ok (c, rest)

/-- Reads an escape after its backslash; `start` is the text from the opening quote on. -/
def readEscape (start : Text) : Text → Except Stop (CodePoint × Text)
  | [] => .error (.malformed .unterminatedString start)
  | e :: rest =>
    match e.char? with
    | some '"' => .ok ('"', rest)
    | some '\\' => .ok ('\\', rest)
    | some '/' => .ok ('/', rest)
    | some 'b' => .ok ('\x08', rest)
    | some 'f' => .ok ('\x0c', rest)
    | some 'n' => .ok ('\n', rest)
    | some 'r' => .ok ('\r', rest)
    | some 't' => .ok ('\t', rest)
    | some 'u' => readUnicode rest
    | _ => .error (.malformed .invalidEscape ('\\' :: e :: rest))

theorem hex4?_length {t rest : Text} {n : Nat} (h : hex4? t = some (n, rest)) :
    rest.length < t.length := by
  unfold hex4? at h
  split at h
  · split at h
    · simp only [Option.some.injEq, Prod.mk.injEq] at h
      obtain ⟨_, rfl⟩ := h
      simp only [List.length_cons]
      omega
    · simp at h
  · simp at h

theorem secondEscape?_length {t rest : Text} (h : secondEscape? t = some rest) :
    rest.length < t.length := by
  unfold secondEscape? at h
  split at h
  · split at h
    · simp only [Option.some.injEq] at h
      subst h
      simp only [List.length_cons]
      omega
    · simp at h
  · simp at h

theorem readUnicode_length {t rest : Text} {c : CodePoint} (h : readUnicode t = .ok (c, rest)) :
    rest.length < t.length := by
  unfold readUnicode at h
  split at h
  · simp at h
  · simp at h
  · rename_i h4
    have l1 := hex4?_length h4
    simp only at h
    split at h
    · split at h
      · simp at h; simp [← h.2]; omega
      · rename_i hs
        have l2 := secondEscape?_length hs
        split at h
        · simp at h
        · rename_i h5
          have l3 := hex4?_length h5
          split at h
          · simp at h; simp [← h.2]; omega
          · simp at h; simp [← h.2]; omega
    · simp at h; simp [← h.2]; omega

theorem readEscape_length {start t rest : Text} {c : CodePoint}
    (h : readEscape start t = .ok (c, rest)) : rest.length < t.length := by
  unfold readEscape at h
  split at h
  · simp at h
  · split at h
    case h_9 =>
      have := readUnicode_length h
      simp
      omega
    all_goals simp at h
    all_goals simp [← h.2]

/-- Reads a string after its opening quote; `start` is the text from that quote on, and `read` holds
the characters read so far, the last one first. -/
def readString (start read : Text) (t : Text) : Except Stop (Text × Text) :=
  match t with
  | [] => .error (.malformed .unterminatedString start)
  | c :: rest =>
    if c = '"' then .ok (read.reverse, rest)
    else if c = '\\' then
      match _h : readEscape start rest with
      | .error stop => .error stop
      | .ok (x, rest') => readString start (x :: read) rest'
    else if c.val < 0x20 then .error (.malformed .controlCharacter (c :: rest))
    else readString start (c :: read) rest
termination_by t.length
decreasing_by
  · have := readEscape_length _h
    simp
    omega
  · simp

/-! ### Numbers -/

def takeDigits (t : Text) : Text × Text := t.span (·.isAsciiDigit)

def ofDigits (ds : Text) : Nat := Text.ofDigitValues (ds.map fun c => c.val - 48)

/-- A whole part: zero alone, or digits that start with another one. -/
def wholePart? (t : Text) : Option (Text × Text) :=
  match t with
  | [] => none
  | c :: rest =>
    if c = '0' then some ([c], rest)
    else if c.isAsciiDigit then some (takeDigits (c :: rest))
    else none

def fractionPart (t : Text) : Text × Text :=
  match t with
  | [] => ([], [])
  | c :: rest =>
    if c = '.' then
      match takeDigits rest with
      | ([], _) => ([], c :: rest)
      | (ds, rest') => (ds, rest')
    else ([], c :: rest)

def exponentSign (t : Text) : Bool × Text :=
  match t with
  | [] => (false, [])
  | c :: rest =>
    if c = '-' then (true, rest) else if c = '+' then (false, rest) else (false, c :: rest)

def exponentPart (t : Text) : Option Int × Text :=
  match t with
  | [] => (none, [])
  | c :: rest =>
    if c = 'e' ∨ c = 'E' then
      let (negative, rest') := exponentSign rest
      match takeDigits rest' with
      | ([], _) => (none, c :: rest)
      | (ds, rest'') =>
        let n : Int := ofDigits ds
        (some (if negative then -n else n), rest'')
    else (none, c :: rest)

/-- Reads a number without its sign. It is an integer unless it has a fraction or an exponent.
Absent when no number starts here. -/
def readMagnitude? (negative : Bool) (t : Text) : Option (Except Stop (Value × Text)) :=
  match wholePart? t with
  | none => none
  | some (whole, rest) =>
    let (fraction, rest') := fractionPart rest
    let (exponent, rest'') := exponentPart rest'
    match fraction, exponent with
    | [], none =>
      if Text.maxDigits < whole.length then some (.error (.tooManyDigits whole.length))
      else
        let n : Int := ofDigits whole
        some (.ok (.int (if negative then -n else n), rest''))
    | _, _ =>
      let x := Binary64.ofDecimal negative (ofDigits (whole ++ fraction))
        (exponent.getD 0 - fraction.length)
      some (.ok (.float x, rest''))

/-! ### Values -/

def words : List (Text × Value) :=
  [("null", .null), ("true", .bool true), ("false", .bool false), ("NaN", .float .nan),
    ("Infinity", .float (.infinite false)), ("-Infinity", .float (.infinite true))]

def readWord? (t : Text) : Option (Value × Text) :=
  (words.find? fun (word, _) => word.isPrefixOf t).map fun (word, v) => (v, t.drop word.length)

def readScalar (t : Text) : Except Stop (Value × Text) :=
  match readWord? t with
  | some r => .ok r
  | none =>
    let magnitude := match t with
      | [] => none
      | c :: rest => if c = '-' then readMagnitude? true rest else readMagnitude? false (c :: rest)
    magnitude.getD (.error (.malformed .expectingValue t))

mutual

/-- Reads a value that starts here, with room for so many more containers inside one another. -/
def readValue : (fuel room : Nat) → Text → Except Stop (Value × Text)
  | 0, _, t => .error (.malformed .expectingValue t)
  | fuel + 1, room, t =>
    match t with
    | [] => .error (.malformed .expectingValue [])
    | c :: rest =>
      if c = '"' then (readString (c :: rest) [] rest).map fun (s, left) => (.text s, left)
      else if c = '[' then
        match room with
        | 0 => .error (.tooDeep .array)
        | room + 1 =>
          match skipBlanks rest with
          | [] => readItems fuel room [] []
          | d :: rest' =>
            if d = ']' then .ok (.list [], rest') else readItems fuel room [] (d :: rest')
      else if c = '\x7b' then
        match room with
        | 0 => .error (.tooDeep .object)
        | room + 1 =>
          match skipBlanks rest with
          | [] => readFields fuel room [] []
          | d :: rest' =>
            if d = '\x7d' then .ok (.object [], rest') else readFields fuel room [] (d :: rest')
      else readScalar (c :: rest)

/-- Reads the items of a list up to its end; `read` holds those read so far, the last one first. -/
def readItems : (fuel room : Nat) → (read : List Value) → Text → Except Stop (Value × Text)
  | 0, _, _, t => .error (.malformed .expectingValue t)
  | fuel + 1, room, read, t =>
    match readValue fuel room t with
    | .error stop => .error stop
    | .ok (v, rest) =>
      match skipBlanks rest with
      | [] => .error (.malformed .expectingComma [])
      | c :: rest' =>
        if c = ']' then .ok (.list (v :: read).reverse, rest')
        else if c = ',' then readItems fuel room (v :: read) (skipBlanks rest')
        else .error (.malformed .expectingComma (c :: rest'))

/-- Reads the fields of an object up to its end; `read` holds those read so far, the last one
first. -/
def readFields :
    (fuel room : Nat) → (read : List (Text × Value)) → Text → Except Stop (Value × Text)
  | 0, _, _, t => .error (.malformed .expectingName t)
  | fuel + 1, room, read, t =>
    match t with
    | [] => .error (.malformed .expectingName [])
    | q :: rest =>
      if q = '"' then
        match readString (q :: rest) [] rest with
        | .error stop => .error stop
        | .ok (name, rest') =>
          match skipBlanks rest' with
          | [] => .error (.malformed .expectingColon [])
          | c :: left =>
            if c = ':' then
              match readValue fuel room (skipBlanks left) with
              | .error stop => .error stop
              | .ok (v, left') =>
                match skipBlanks left' with
                | [] => .error (.malformed .expectingComma [])
                | d :: left'' =>
                  if d = '\x7d' then
                    .ok (.object (Fields.ofList ((name, v) :: read).reverse), left'')
                  else if d = ',' then readFields fuel room ((name, v) :: read) (skipBlanks left'')
                  else .error (.malformed .expectingComma (d :: left''))
            else .error (.malformed .expectingColon (c :: left))
      else .error (.malformed .expectingName (q :: rest))

end

/-- How many containers are read inside one another. -/
def maxDepth : Nat := 985

/-- Enough for every text of this length: each bracket takes one character and two steps. -/
def fuelFor (t : Text) : Nat := 2 * t.length + 2

def Stop.fault (t : Text) : Stop → Fault
  | .malformed cause left => Fault.at cause t (t.length - left.length)
  | .tooManyDigits count => .tooManyDigits count
  | .tooDeep container => .tooDeep container

def readText (t : Text) : Except Fault Value :=
  match readValue (fuelFor t) maxDepth (skipBlanks t) with
  | .error stop => .error (stop.fault t)
  | .ok (v, rest) =>
    match skipBlanks rest with
    | [] => .ok v
    | left => .error (Fault.at .extraData t (t.length - left.length))

/-- The value that a text denotes. A text with a byte order mark was decoded in the wrong way. -/
def read (t : Text) : Except Fault Value :=
  if t.head?.map CodePoint.val = some 0xFEFF then .error (Fault.at .byteOrderMark t 0)
  else readText t

end EnvelopeStore.Json
