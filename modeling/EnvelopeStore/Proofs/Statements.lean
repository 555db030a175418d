import EnvelopeStore.Table.Query
import Mathlib.Tactic.Lemma

/-!
# What statements say

A statement is told by its words, however they are spaced. A plain name is a word of its own, so what
a store says to a database is the same whatever its table is called.
-/

namespace EnvelopeStore.Proofs
open Table

def isBreak (c : CodePoint) : Bool := c = CodePoint.ofChar ' ' || c = CodePoint.ofChar '\n'

/-- The words of a text, which blanks and line ends set apart. -/
def words (t : Text) : List Text := (t.splitOnP isBreak).filter (· ≠ [])

/-- What can be done with a table of keys and entries. -/
inductive Command
  | upsert
  | delete
  | truncate
  | find
  | list
deriving DecidableEq

def Command.words (table : Text) : Command → List Text
  | .upsert => ["INSERT", "INTO", table, "(key,", "entry,", "updated_at)", "VALUES", "($1,", "$2,",
      "now())", "ON", "CONFLICT", "(key)", "DO", "UPDATE", "SET", "entry", "=", "EXCLUDED.entry,",
      "updated_at", "=", "EXCLUDED.updated_at"]
  | .delete => ["DELETE", "FROM", table, "WHERE", "key", "=", "$1"]
  | .truncate => ["TRUNCATE", "TABLE", table]
  | .find => ["SELECT", "entry", "FROM", table, "WHERE", "key", "=", "$1"]
  | .list => ["SELECT", "key", "FROM", table, "WHERE", "key", "LIKE", "$1", "ESCAPE", "'\\'",
      "ORDER", "BY", "key"]

/-- A text says that something is to be done with a table. -/
def Means (table : Name) (sql : Text) (command : Command) : Prop :=
  words sql = command.words table.text

/-! ### Words -/

section

variable {c : CodePoint} {t : Text}

lemma words_append_break (hc : isBreak c = true) (s t : Text) :
    words (s ++ c :: t) = words s ++ words t := by
  rw [words, words, words, List.splitOnP_append_cons s t hc, List.filter_append]

lemma words_singleton (hne : t ≠ []) (ht : ∀ c ∈ t, isBreak c = false) : words t = [t] := by
  rw [words, List.splitOnP_eq_singleton ht]
  exact List.filter_cons_of_pos (decide_eq_true hne)

lemma not_isBreak_of_alphanumeric (h : Text.isAlphanumericChar c = true) : isBreak c = false := by
  have hspace : Text.isAlphanumericChar (CodePoint.ofChar ' ') = false := by decide +kernel
  have hline : Text.isAlphanumericChar (CodePoint.ofChar '\n') = false := by decide +kernel
  rw [isBreak, Bool.or_eq_false_iff, decide_eq_false_iff_not, decide_eq_false_iff_not]
  constructor
  · rintro rfl
    simp [hspace] at h
  · rintro rfl
    simp [hline] at h

lemma words_name (table : Name) : words table.text = [table.text] := by
  have hplain := table.plain
  rw [Text.isAlphanumeric, Bool.and_eq_true, List.all_eq_true] at hplain
  apply words_singleton
  · intro hnil
    simp [hnil] at hplain
  · intro c hc
    by_cases hline : c = CodePoint.ofChar '_'
    · rw [hline]
      decide
    · have hkept : c ∈ table.text.filter (· ≠ CodePoint.ofChar '_') := by simp [hc, hline]
      exact not_isBreak_of_alphanumeric (hplain.2 c hkept)

lemma words_around (table : Name) (before after : Text) :
    words (before ++ CodePoint.ofChar ' ' :: (table.text ++ CodePoint.ofChar ' ' :: after)) =
      words before ++ table.text :: words after := by
  have hspace : isBreak (CodePoint.ofChar ' ') = true := rfl
  rw [words_append_break hspace, words_append_break hspace, words_name, List.singleton_append]

end

/-! ### Statements -/

section

variable (table : Name)

lemma means_storeEntry : Means table (Statement.storeEntry.sql table) .upsert := by
  have hsql : Statement.storeEntry.sql table = Text.ofString "\n            INSERT INTO" ++
      CodePoint.ofChar ' ' :: (table.text ++ CodePoint.ofChar ' ' ::
        (Text.ofString "(key, entry, updated_at)\n" ++
          Text.ofString "            VALUES ($1, $2, now())\n" ++
          Text.ofString "            ON CONFLICT (key) DO UPDATE\n" ++ Text.ofString
            "            SET entry = EXCLUDED.entry, updated_at = EXCLUDED.updated_at\n        ")) := by
    simp only [Statement.sql, List.append_assoc]
    rfl
  rw [Means, hsql, words_around]
  rfl

lemma means_deleteEntry : Means table (Statement.deleteEntry.sql table) .delete := by
  have hsql : Statement.deleteEntry.sql table = Text.ofString "DELETE FROM" ++
      CodePoint.ofChar ' ' :: (table.text ++ CodePoint.ofChar ' ' ::
        Text.ofString "WHERE key = $1") := rfl
  rw [Means, hsql, words_around]
  rfl

lemma means_truncateEntries : Means table (Statement.truncateEntries.sql table) .truncate := by
  have hsql : Statement.truncateEntries.sql table =
      Text.ofString "TRUNCATE TABLE" ++ CodePoint.ofChar ' ' :: table.text := rfl
  rw [Means, hsql, words_append_break rfl, words_name]
  rfl

lemma means_getEntry : Means table (Statement.getEntry.sql table) .find := by
  have hsql : Statement.getEntry.sql table = Text.ofString "SELECT entry FROM" ++
      CodePoint.ofChar ' ' :: (table.text ++ CodePoint.ofChar ' ' ::
        Text.ofString "WHERE key = $1") := rfl
  rw [Means, hsql, words_around]
  rfl

lemma means_listEntries : Means table (Statement.listEntries.sql table) .list := by
  have hsql : Statement.listEntries.sql table = Text.ofString "SELECT key FROM" ++
      CodePoint.ofChar ' ' :: (table.text ++ CodePoint.ofChar ' ' ::
        Text.ofString "WHERE key LIKE $1 ESCAPE '\\' ORDER BY key") := rfl
  rw [Means, hsql, words_around]
  rfl

end

/-! ### Reading statements -/

def Command.all : List Command := [.upsert, .delete, .truncate, .find, .list]

def commandOf? (table : Name) (sql : Text) : Option Command :=
  Command.all.find? fun command => words sql = command.words table.text

def Command.opening (command : Command) : List Text := (command.words []).take 2

lemma Command.take_words (table : Text) (command : Command) :
    (command.words table).take 2 = command.opening := by
  cases command <;> rfl

lemma Command.opening_injective : Function.Injective Command.opening := by
  intro command command' h
  cases command <;> cases command' <;>
    first
    | rfl
    | exact absurd h (by decide)

lemma commandOf?_of_means {table : Name} {sql : Text} {command : Command}
    (h : Means table sql command) : commandOf? table sql = some command := by
  have hsame : ∀ other : Command,
      decide (words sql = other.words table.text) = decide (command = other) := by
    intro other
    rw [decide_eq_decide, h]
    refine ⟨fun hwords => Command.opening_injective ?_, congrArg _⟩
    rw [← Command.take_words table.text, hwords, Command.take_words]
  simp only [commandOf?, hsame]
  cases command <;> rfl

end EnvelopeStore.Proofs
