import EnvelopeStore.Failure

/-!
# Inline values

An encrypted value inside a larger record: a mark, the id of the wrapping key and the ciphertext,
separated by colons. Id and ciphertext are not empty and hold no colon, so that the text determines
both. They are texts where they are read; a caller who makes an inline value may hand over a list or
an object, which is written as in a message.
-/

namespace EnvelopeStore

def InlineValue.isSegment : Value → Bool
  | .text t => !t.isEmpty && !t.contains (':' : CodePoint)
  | .list items => !items.isEmpty && !items.any (·.equalsText ":")
  | .object fields => !fields.isEmpty && !Fields.has fields ":"
  | _ => false

/-- An inline value. -/
structure InlineValue where
  keyId : Value
  ciphertext : Value
  keyId_segment : InlineValue.isSegment keyId
  ciphertext_segment : InlineValue.isSegment ciphertext

namespace InlineValue

def mark : Text := "enc:AES256:"

def refusal (fault : InlineFault) (v : Value) : Failure :=
  if v.isGiven then
    match v with
    | .bytes _ | .buffer _ => .shape .textForBytes
    | .text _ | .list _ | .object _ => .malformedValue fault
    | v => .shape (.notContainer v.kind)
  else .malformedValue fault

def make (keyId ciphertext : Value) : Except Failure InlineValue :=
  if hk : isSegment keyId then
    if hc : isSegment ciphertext then .ok ⟨keyId, ciphertext, hk, hc⟩
    else .error (refusal .invalidCiphertext ciphertext)
  else .error (refusal (.invalidKeyId keyId) keyId)

def toText (v : InlineValue) : Text := mark ++ v.keyId.display ++ ":" ++ v.ciphertext.display

/-- The inline value of a text: the text has the mark and four segments, the last two of which are
the id and the ciphertext. -/
def ofText (t : Text) : Except Failure InlineValue :=
  if t.startsWith mark then
    match t.segments ':' with
    | [_, _, keyId, ciphertext] => make (.text keyId) (.text ciphertext)
    | segments => .error (.malformedValue (.segmentCount segments.length))
  else .error (.malformedValue .noMark)

/-- The inline value of a value of any kind. -/
def ofValue : Value → Except Failure InlineValue
  | .text t => ofText t
  | _ => .error (.malformedValue .noMark)

/-- The inline value of a value, absent when the value is malformed. -/
def ofValue? (v : Value) : Except Failure (Option InlineValue) :=
  match ofValue v with
  | .ok i => .ok (some i)
  | .error (.malformedValue _) => .ok none
  | .error failure => .error failure

/-- The text of the inline value of an id and a ciphertext. -/
def format (keyId ciphertext : Value) : Except Failure Text :=
  (make keyId ciphertext).map toText

/-- Whether a value in a raw record, which may still be in double quotes, is an inline value. -/
def isInline : Value → Except Failure Bool
  | .text t => (ofValue? (.text (t.strip (· = ('"' : CodePoint))))).map Option.isSome
  | _ => .ok false

end InlineValue

end EnvelopeStore
