import EnvelopeStore.Text.Basic

/-!
# Patterns

Patterns of the `LIKE` operator with a backslash as the escape character. A text is made into the
pattern that matches it alone by escaping every character with a meaning of its own, one kind of
them after another.
-/

namespace EnvelopeStore.Table.Like

def escapeMark : CodePoint := '\\'

def anySequence : CodePoint := '%'

def anyCharacter : CodePoint := '_'

def escapeEach (c : CodePoint) (t : Text) : Text := Text.replaceAll c [escapeMark, c] t

/-- A text as it is written in a pattern to stand for itself. The escape character has its turn
first, so that only those of the text are escaped and not those that escape a wildcard. -/
def escape (t : Text) : Text :=
  escapeEach anyCharacter (escapeEach anySequence (escapeEach escapeMark t))

/-- The pattern for the texts that start with a given one. -/
def startingWith (t : Text) : Text := escape t ++ [anySequence]

end EnvelopeStore.Table.Like
