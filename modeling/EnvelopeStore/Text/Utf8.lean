import EnvelopeStore.Text.Fault

/-!
# UTF-8

Every character has exactly one sequence of one to four bytes, and a surrogate has none. Reading is
strict: overlong forms, surrogates and numbers past the last code point are refused at the first
byte that shows them. A lenient reading, used for documents, lets the three-byte forms of
surrogates pass.
-/

namespace EnvelopeStore.Text.Utf8

/-- The bytes of one code point. -/
def encodeChar (c : CodePoint) : Bytes :=
  let n := c.val
  if n < 0x80 then [UInt8.ofNat n]
  else if n < 0x800 then [UInt8.ofNat (0xC0 + n / 0x40), UInt8.ofNat (0x80 + n % 0x40)]
  else if n < 0x10000 then
    [UInt8.ofNat (0xE0 + n / 0x1000), UInt8.ofNat (0x80 + n / 0x40 % 0x40),
      UInt8.ofNat (0x80 + n % 0x40)]
  else
    [UInt8.ofNat (0xF0 + n / 0x40000), UInt8.ofNat (0x80 + n / 0x1000 % 0x40),
      UInt8.ofNat (0x80 + n / 0x40 % 0x40), UInt8.ofNat (0x80 + n % 0x40)]

/-- The bytes of a text, refused when it holds a surrogate. -/
def encode (t : Text) : Except EncodeFault Bytes :=
  match EncodeFault.find? t with
  | some fault => .error fault
  | none => .ok (t.flatMap encodeChar)

/-- What the first byte of a character promises. -/
structure Lead where
  share : Nat
  low : Nat
  high : Nat
  more : Nat

/-- The promise of a byte, absent when no character starts with it. The bounds on the second byte
leave out overlong forms, surrogates and numbers past the last code point. -/
def lead? (b : UInt8) : Option Lead :=
  let n := b.toNat
  if n < 0x80 then some ⟨n, 0x80, 0xBF, 0⟩
  else if n < 0xC2 then none
  else if n < 0xE0 then some ⟨n - 0xC0, 0x80, 0xBF, 1⟩
  else if n < 0xF0 then
    some ⟨n - 0xE0, if n = 0xE0 then 0xA0 else 0x80, if n = 0xED then 0x9F else 0xBF, 2⟩
  else if n < 0xF5 then
    some ⟨n - 0xF0, if n = 0xF0 then 0x90 else 0x80, if n = 0xF4 then 0x8F else 0xBF, 3⟩
  else none

/-- Reads the bytes that follow a first byte, the next of them between `low` and `high` and the
later ones between 80 and BF. On failure it tells how many were as they should be. -/
def followers : (more low high value : Nat) → Bytes → Except (Nat × DecodeCause) (Nat × Bytes)
  | 0, _, _, value, rest => .ok (value, rest)
  | _ + 1, _, _, _, [] => .error (0, .unexpectedEnd)
  | more + 1, low, high, value, b :: rest =>
    if low ≤ b.toNat ∧ b.toNat ≤ high then
      match followers more 0x80 0xBF (value * 0x40 + (b.toNat - 0x80)) rest with
      | .ok r => .ok r
      | .error (good, cause) => .error (good + 1, cause)
    else .error (0, .invalidContinuation)

/-- Reads the first character of nonempty bytes. On failure it tells how many bytes are bad. -/
def next (b : UInt8) (rest : Bytes) : Except (Nat × DecodeCause) (CodePoint × Bytes) :=
  match lead? b with
  | none => .error (1, .invalidStart)
  | some lead =>
    match followers lead.more lead.low lead.high lead.share rest with
    | .ok (value, rest) => .ok (CodePoint.ofNat value, rest)
    | .error (good, cause) => .error (good + 1, cause)

/-- Reads a surrogate written in three bytes. -/
def surrogate? (b : UInt8) : Bytes → Option (CodePoint × Bytes)
  | c :: d :: rest =>
    if b.toNat = 0xED ∧ 0xA0 ≤ c.toNat ∧ c.toNat ≤ 0xBF ∧ 0x80 ≤ d.toNat ∧ d.toNat ≤ 0xBF then
      some (CodePoint.ofNat (0xD000 + (c.toNat - 0x80) * 0x40 + (d.toNat - 0x80)), rest)
    else none
  | _ => none

/-- As `next`, but surrogates pass when the reading is lenient. -/
def nextWith (lenient : Bool) (b : UInt8) (rest : Bytes) :
    Except (Nat × DecodeCause) (CodePoint × Bytes) :=
  match (if lenient then surrogate? b rest else none) with
  | some r => .ok r
  | none => next b rest

theorem followers_length {more low high value : Nat} {bytes rest : Bytes} {v : Nat}
    (h : followers more low high value bytes = .ok (v, rest)) : rest.length ≤ bytes.length := by
  fun_induction followers more low high value bytes with
  | case1 => simp at h; simp [h]
  | case2 => simp at h
  | case3 _ _ _ _ _ _ _ r hr ih => simp at h; subst h; have := ih hr; simp; omega
  | case4 => simp at h
  | case5 => simp at h

theorem next_length {b : UInt8} {bytes rest : Bytes} {c : CodePoint}
    (h : next b bytes = .ok (c, rest)) : rest.length ≤ bytes.length := by
  unfold next at h
  split at h
  · simp at h
  · split at h
    · rename_i hf
      simp at h
      exact h.2 ▸ followers_length hf
    · simp at h

theorem surrogate?_length {b : UInt8} {bytes rest : Bytes} {c : CodePoint}
    (h : surrogate? b bytes = some (c, rest)) : rest.length ≤ bytes.length := by
  unfold surrogate? at h
  split at h
  · split at h
    · simp at h
      simp [← h.2]
      omega
    · simp at h
  · simp at h

theorem nextWith_length {lenient : Bool} {b : UInt8} {bytes rest : Bytes} {c : CodePoint}
    (h : nextWith lenient b bytes = .ok (c, rest)) : rest.length ≤ bytes.length := by
  unfold nextWith at h
  split at h
  · rename_i hs
    simp at h
    subst h
    split at hs
    · exact surrogate?_length hs
    · simp at hs
  · exact next_length h

/-- Reads character after character of what is left of `size` bytes; `read` holds those read so far,
the last one first. -/
def decodeLoop (lenient : Bool) (size : Nat) (read : Text) (bytes : Bytes) :
    Except DecodeFault Text :=
  match bytes with
  | [] => .ok read.reverse
  | b :: rest =>
    match _h : nextWith lenient b rest with
    | .ok (c, rest') => decodeLoop lenient size (c :: read) rest'
    | .error (count, cause) => .error ⟨.utf8, size - bytes.length, b, count, cause⟩
termination_by bytes.length
decreasing_by
  have := nextWith_length _h
  simp
  omega

def decode (bytes : Bytes) : Except DecodeFault Text := decodeLoop false bytes.length [] bytes

/-- The text that the bytes spell when surrogates may be written like characters. -/
def decodeLenient (bytes : Bytes) : Except DecodeFault Text := decodeLoop true bytes.length [] bytes

end EnvelopeStore.Text.Utf8
