import EnvelopeStore.Proofs.StoreMaps
import Mathlib.Data.List.Induction
import Mathlib.Tactic.Tauto

/-!
# The history of a map in memory

What a map in memory answers follows from its history alone: under a key is the entry that was set
last there, unless the key was deleted or the map cleared since. So histories that leave the same
entries behind cannot be told apart, though they may have led to bindings in another order.
-/

namespace EnvelopeStore.Proofs

/-! ### Tasks and histories -/

/-- What a map in memory is asked for. -/
inductive MemoryTask
  | set (key : Text) (entry : Entry)
  | get (key : Text)
  | delete (key : Text)
  | list (start : Text)
  | clear
  | size

/-- What a map in memory answers. -/
inductive MemoryAnswer
  | done
  | found (entry : Option Entry)
  | keys (keys : List Value)
  | size (n : Nat)

namespace MemoryTask

/-- Asks a map in memory. -/
def perform : MemoryTask → Action Memory MemoryAnswer
  | .set key entry => (fun _ => .done) <$> Memory.storage.set (.text key) entry
  | .get key => .found <$> Memory.storage.get (.text key)
  | .delete key => (fun _ => .done) <$> Memory.storage.delete (.text key)
  | .list start => .keys <$> Memory.storage.list (.text start)
  | .clear => (fun _ => .done) <$> modify fun _ => Memory.empty
  | .size => (fun m => .size m.size) <$> MonadState.get

/-- A task sets or deletes a key. -/
def SetsOrDeletes (key : Text) (task : MemoryTask) : Prop :=
  task = .delete key ∨ ∃ entry, task = .set key entry

/-- A task is done with what was kept under a key before. -/
def Touches (key : Text) (task : MemoryTask) : Prop := task.SetsOrDeletes key ∨ task = .clear

end MemoryTask

/-- An entry is the last that was set under a key, and neither was the key deleted nor the map
cleared since. -/
def LastSet (history : List MemoryTask) (key : Text) (entry : Entry) : Prop :=
  ∃ before after, history = before ++ .set key entry :: after ∧ ∀ task ∈ after, ¬task.Touches key

/-- The map that a history leads to, from an empty one. -/
def memoryAfter (history : List MemoryTask) : Memory := afterAll MemoryTask.perform .empty history

def answersFrom (m : Memory) : List MemoryTask → List (Except Failure MemoryAnswer)
  | [] => []
  | task :: rest => (task.perform.result m).1 :: answersFrom (task.perform.result m).2 rest

section

variable {history history' : List MemoryTask} {task : MemoryTask} {key key' start : Text}
  {entry entry' : Entry} {m m' : Memory}

lemma not_lastSet_nil : ¬LastSet [] key entry := by
  rintro ⟨before, after, hnil, -⟩
  simp at hnil

/-- The last task decides, if it touches the key; else what was decided before stands. -/
lemma lastSet_snoc : LastSet (history ++ [task]) key entry ↔
    task = .set key entry ∨ ¬task.Touches key ∧ LastSet history key entry := by
  constructor
  · rintro ⟨before, after, hsplit, hafter⟩
    rcases List.eq_nil_or_concat after with rfl | ⟨rest, last, rfl⟩
    · obtain ⟨-, hlast⟩ := List.append_inj' hsplit rfl
      exact .inl (List.singleton_inj.mp hlast)
    · have hsnoc : history ++ [task] = (before ++ .set key entry :: rest) ++ [last] := by
        simpa using hsplit
      obtain ⟨hbefore, hlast⟩ := List.append_inj' hsnoc rfl
      obtain rfl := List.singleton_inj.mp hlast
      exact .inr ⟨hafter task (by simp), before, rest, hbefore,
        fun other hother => hafter other (by simp [hother])⟩
  · rintro (rfl | ⟨htask, before, after, rfl, hafter⟩)
    · exact ⟨history, [], rfl, nofun⟩
    · refine ⟨before, after ++ [task], by simp, ?_⟩
      intro other hother
      obtain hmem | hmem := List.mem_append.mp hother
      · exact hafter other hmem
      · rwa [List.mem_singleton.mp hmem]

/-! ### One task -/

/-- A map keeps what a history has left behind, each key once. -/
structure Remembers (history : List MemoryTask) (m : Memory) : Prop where
  keyed : ∃ keys, TextKeyed m.bindings keys
  get : ∀ key entry, m.get? (.text key) = some entry ↔ LastSet history key entry

lemma remembers_empty : Remembers [] .empty :=
  ⟨⟨[], rfl, .nil⟩, fun _ _ => iff_of_false nofun not_lastSet_nil⟩

lemma remembers_set (h : Remembers history m) (key : Text) (entry : Entry) :
    Remembers (history ++ [.set key entry]) (m.insert (.text key) entry) := by
  obtain ⟨⟨keys, hkeyed⟩, hget⟩ := h
  refine ⟨⟨_, textKeyed_insert hkeyed entry⟩, ?_⟩
  intro other found
  have hinsert : (m.insert (.text key) entry).get? (.text other) =
      if key = other then some entry else m.get? (.text other) := Bindings.get?_insert_text _ _ _ _
  rw [lastSet_snoc, hinsert, ← hget]
  by_cases heq : key = other
  · simp [heq, MemoryTask.Touches, MemoryTask.SetsOrDeletes]
  · simp [heq, MemoryTask.Touches, MemoryTask.SetsOrDeletes]

lemma remembers_delete (h : Remembers history m) (key : Text) :
    Remembers (history ++ [.delete key]) (m.erase (.text key)) := by
  obtain ⟨⟨keys, hkeyed⟩, hget⟩ := h
  refine ⟨⟨_, textKeyed_erase hkeyed⟩, ?_⟩
  intro other found
  have herase : (m.erase (.text key)).get? (.text other) =
      if key = other then none else m.get? (.text other) := Bindings.get?_erase_text _ _ _
  rw [lastSet_snoc, herase, ← hget]
  by_cases heq : key = other
  · simp [heq, MemoryTask.Touches, MemoryTask.SetsOrDeletes]
  · simp [heq, MemoryTask.Touches, MemoryTask.SetsOrDeletes]

lemma remembers_clear : Remembers (history ++ [.clear]) .empty := by
  refine ⟨remembers_empty.keyed, ?_⟩
  intro key entry
  rw [remembers_empty.get, lastSet_snoc]
  refine iff_of_false not_lastSet_nil ?_
  rintro (hset | ⟨htouches, -⟩)
  · exact nomatch hset
  · exact htouches (.inr rfl)

lemma remembers_read (h : Remembers history m) (htask : ∀ key, ¬task.Touches key) :
    Remembers (history ++ [task]) m := by
  refine ⟨h.keyed, ?_⟩
  intro key entry
  rw [h.get, lastSet_snoc]
  constructor
  · intro hlast
    exact .inr ⟨htask key, hlast⟩
  · rintro (rfl | ⟨-, hlast⟩)
    · exact absurd (.inl (.inr ⟨entry, rfl⟩)) (htask key)
    · exact hlast

/-! ### Answers -/

/-- The keys that a history has left entries under and that start with a text, in strict order of
the numbers of their code points. -/
structure Listed (history : List MemoryTask) (start : Text) (keys : List Text) : Prop where
  ordered : keys.Pairwise fun s t => s.map CodePoint.val < t.map CodePoint.val
  mem : ∀ key, key ∈ keys ↔ start <+: key ∧ ∃ entry, LastSet history key entry

/-- What a map answers to a task after a history: to a look-up the entry that was set last, and
nothing if there is none; to a listing all keys that start as asked, in order; and as its size how
many there are of any start. -/
inductive HistoryAnswers (history : List MemoryTask) : MemoryTask → MemoryAnswer → Prop
  | set (key : Text) (entry : Entry) : HistoryAnswers history (.set key entry) .done
  | get (key : Text) (found : Option Entry)
      (h : ∀ entry, found = some entry ↔ LastSet history key entry) :
    HistoryAnswers history (.get key) (.found found)
  | delete (key : Text) : HistoryAnswers history (.delete key) .done
  | list (start : Text) (keys : List Text) (h : Listed history start keys) :
    HistoryAnswers history (.list start) (.keys (keys.map .text))
  | clear : HistoryAnswers history .clear .done
  | size (keys : List Text) (h : Listed history [] keys) :
    HistoryAnswers history .size (.size keys.length)

lemma listed_unique {keys keys' : List Text} (h : Listed history start keys)
    (h' : Listed history' start keys')
    (hsame : ∀ key entry, LastSet history key entry ↔ LastSet history' key entry) :
    keys = keys' := by
  refine eq_of_pairwise_before (h.ordered.imp before_iff_lt.mpr)
    (h'.ordered.imp before_iff_lt.mpr) ?_
  intro key
  rw [h.mem, h'.mem]
  exact and_congr_right' (exists_congr (hsame key))

lemma historyAnswers_unique {answer answer' : MemoryAnswer}
    (h : HistoryAnswers history task answer) (h' : HistoryAnswers history' task answer')
    (hsame : ∀ key entry, LastSet history key entry ↔ LastSet history' key entry) :
    answer = answer' := by
  cases h with
  | set | delete | clear =>
    cases h'
    rfl
  | get key found hfound =>
    cases h' with
    | get _ found' hfound' =>
      have heq : found = found' := by
        ext entry
        rw [hfound, hfound', hsame]
      rw [heq]
  | list start keys hlisted =>
    cases h' with
    | list _ keys' hlisted' => rw [listed_unique hlisted hlisted' hsame]
  | size keys hlisted =>
    cases h' with
    | size keys' hlisted' => rw [listed_unique hlisted hlisted' hsame]

lemma listed_sort {keys : List Text} (h : Remembers history m) (hkeys : TextKeyed m.bindings keys)
    (start : Text) : Listed history start (Text.sort (keys.filter (·.startsWith start))) := by
  refine ⟨?_, ?_⟩
  · have hsorted := sort_pairwise_before (hkeys.nodup.filter (·.startsWith start))
    exact hsorted.imp before_iff_lt.mp
  · intro key
    have hkept : (∃ entry, LastSet history key entry) ↔ key ∈ keys := by
      rw [← get?_isSome_iff hkeys.keys, Option.isSome_iff_exists]
      exact exists_congr fun entry => (h.get key entry).symm
    rw [mem_sort_filter, hkept, and_comm]

lemma length_sort_all {keys : List Text} (hkeys : TextKeyed m.bindings keys) :
    (Text.sort (keys.filter (·.startsWith []))).length = m.size := by
  have hall : keys.filter (·.startsWith []) = keys := List.filter_eq_self.mpr fun _ _ => rfl
  have hsize : (Bindings.keys m.bindings).length = m.size := List.length_map _
  rw [hall, Text.sort, List.length_mergeSort, ← hsize, hkeys.keys, List.length_map]

/-- After a history, a task is answered as the history tells, and what is kept is what the longer
history has left behind. Nothing changes if the task touches no key. -/
lemma perform_answered_by_history (h : Remembers history m) (task : MemoryTask) :
    ∃ answer m', task.perform.result m = (.ok answer, m') ∧ HistoryAnswers history task answer ∧
      Remembers (history ++ [task]) m' ∧ ((∀ key, ¬task.Touches key) → m' = m) := by
  have hread : (∀ key, ¬task.Touches key) → Remembers (history ++ [task]) m := remembers_read h
  cases task with
  | set key entry =>
    refine ⟨_, _, result_map_of _ (memory_set m key entry), .set key entry,
      remembers_set h key entry, ?_⟩
    intro hnone
    exact absurd (.inl (.inr ⟨entry, rfl⟩)) (hnone key)
  | get key =>
    have hnone : ∀ other, ¬(MemoryTask.get key).Touches other := by
      simp [MemoryTask.Touches, MemoryTask.SetsOrDeletes]
    exact ⟨_, m, result_map_of _ (memory_get m key), .get key _ (h.get key), hread hnone,
      fun _ => rfl⟩
  | delete key =>
    refine ⟨_, _, result_map_of _ (memory_delete m key), .delete key, remembers_delete h key, ?_⟩
    intro hnone
    exact absurd (.inl (.inl rfl)) (hnone key)
  | list start =>
    have hnone : ∀ other, ¬(MemoryTask.list start).Touches other := by
      simp [MemoryTask.Touches, MemoryTask.SetsOrDeletes]
    obtain ⟨keys, hkeys⟩ := h.keyed
    exact ⟨_, m, result_map_of _ (memory_list hkeys.keys start),
      .list start _ (listed_sort h hkeys start), hread hnone, fun _ => rfl⟩
  | clear =>
    refine ⟨_, _, result_map_of _ (result_modify _ m), .clear, remembers_clear, ?_⟩
    intro hnone
    exact absurd (.inr rfl) (hnone [])
  | size =>
    have hnone : ∀ other, ¬MemoryTask.size.Touches other := by
      simp [MemoryTask.Touches, MemoryTask.SetsOrDeletes]
    obtain ⟨keys, hkeys⟩ := h.keyed
    refine ⟨.size m.size, m, result_map_of _ (result_get m), ?_, hread hnone, fun _ => rfl⟩
    rw [← length_sort_all hkeys]
    exact .size _ (listed_sort h hkeys [])

/-! ### Runs -/

lemma memoryAfter_snoc (history : List MemoryTask) (task : MemoryTask) :
    memoryAfter (history ++ [task]) = (task.perform.result (memoryAfter history)).2 := by
  rw [memoryAfter, afterAll, List.foldl_append]
  rfl

lemma remembers_memoryAfter (history : List MemoryTask) :
    Remembers history (memoryAfter history) := by
  induction history using List.reverseRecOn with
  | nil => exact remembers_empty
  | append_singleton history task ih =>
    obtain ⟨answer, m', hrun, -, hremembers, -⟩ := perform_answered_by_history ih task
    rwa [memoryAfter_snoc, hrun]

lemma answersFrom_eq (h : Remembers history m) (h' : Remembers history' m')
    (hsame : ∀ key entry, LastSet history key entry ↔ LastSet history' key entry)
    (later : List MemoryTask) : answersFrom m later = answersFrom m' later := by
  induction later generalizing history history' m m' with
  | nil => rfl
  | cons task rest ih =>
    obtain ⟨answer, n, hrun, hanswer, hnext, -⟩ := perform_answered_by_history h task
    obtain ⟨answer', n', hrun', hanswer', hnext', -⟩ := perform_answered_by_history h' task
    rw [answersFrom, answersFrom, hrun, hrun', historyAnswers_unique hanswer hanswer' hsame]
    refine congrArg _ (ih hnext hnext' ?_)
    intro key entry
    rw [lastSet_snoc, lastSet_snoc, hsame]

lemma touches_iff {other : Text} (h : task.SetsOrDeletes key) :
    task.Touches other ↔ key = other := by
  rcases h with rfl | ⟨entry, rfl⟩ <;> simp [MemoryTask.Touches, MemoryTask.SetsOrDeletes]

lemma lastSet_exchange {s t : MemoryTask} (hne : key ≠ key') (hs : s.SetsOrDeletes key)
    (ht : t.SetsOrDeletes key') {other : Text} :
    LastSet (history ++ [s, t]) other entry ↔ LastSet (history ++ [t, s]) other entry := by
  have hset : ∀ task : MemoryTask, task = .set other entry → task.Touches other :=
    fun task htask => .inl (.inr ⟨entry, htask⟩)
  have hapart : s.Touches other → ¬t.Touches other := by
    rw [touches_iff hs, touches_iff ht]
    rintro rfl heq
    exact hne heq.symm
  have hsnoc : ∀ u v, history ++ [u, v] = history ++ [u] ++ [v] := fun u v => by simp
  have hs := hset s
  have ht := hset t
  rw [hsnoc, hsnoc, lastSet_snoc, lastSet_snoc, lastSet_snoc, lastSet_snoc]
  tauto

end

/-- A map in memory is a finite map with ordered listings. After any history each task is answered
as the history tells, and leaves everything as it is unless it touches a key; so does the deletion
of a key that is not there. Tasks next to each other that set or delete different keys can change
places: no later answer differs. -/
theorem memory_answers_by_history (history : List MemoryTask) :
    (∀ task, ∃ answer m', task.perform.result (memoryAfter history) = (.ok answer, m') ∧
      HistoryAnswers history task answer ∧
      ((∀ key, ¬task.Touches key) → m' = memoryAfter history)) ∧
    (∀ key, (∀ entry, ¬LastSet history key entry) →
      memoryAfter (history ++ [.delete key]) = memoryAfter history) ∧
    ∀ key key' s t, key ≠ key' → MemoryTask.SetsOrDeletes key s → MemoryTask.SetsOrDeletes key' t →
      ∀ later, answersFrom (memoryAfter (history ++ [s, t])) later =
        answersFrom (memoryAfter (history ++ [t, s])) later := by
  have hremembers := remembers_memoryAfter history
  refine ⟨?_, ?_, ?_⟩
  · intro task
    obtain ⟨answer, m', hrun, hanswer, -, hsame⟩ := perform_answered_by_history hremembers task
    exact ⟨answer, m', hrun, hanswer, hsame⟩
  · intro key hnone
    have hget : (memoryAfter history).get? (.text key) = none :=
      Option.eq_none_iff_forall_ne_some.mpr fun entry hentry =>
        hnone entry ((hremembers.get key entry).mp hentry)
    rw [memoryAfter_snoc, MemoryTask.perform, result_map_of _ (memory_delete _ key), Memory.erase,
      erase_of_get?_eq_none hget]
  · intro key key' s t hne hs ht later
    exact answersFrom_eq (remembers_memoryAfter _) (remembers_memoryAfter _)
      (fun _ _ => lastSet_exchange hne hs ht) later

/-- Whether an entry is set before or after another one is deleted does not show in a listing, in a
size or in a look-up. -/
theorem set_and_delete_change_places :
    let entry : Entry := .current "wrapped" "sealed" "id"
    let history : List MemoryTask := [.set "a" entry, .clear, .set "a" entry]
    let later : List MemoryTask := [.list [], .size, .get "a", .get "b"]
    answersFrom (memoryAfter (history ++ [.set "b" entry, .delete "a"])) later =
      answersFrom (memoryAfter (history ++ [.delete "a", .set "b" entry])) later := by
  intro entry history later
  have hne : ("b" : Text) ≠ "a" := by decide
  exact (memory_answers_by_history history).2.2 "b" "a" _ _ hne (.inr ⟨entry, rfl⟩) (.inl rfl) later

end EnvelopeStore.Proofs
