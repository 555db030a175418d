import EnvelopeStore.Proofs.InProcess
import EnvelopeStore.Proofs.Order
import EnvelopeStore.Proofs.Records
import Mathlib.Data.Option.Basic
import Mathlib.Logic.Function.Basic

/-!
# Stores as maps of records

What any store is asked for, and what a map from keys to records answers to it. The order in which
keys are listed is left to the store. A map in memory, which fails on no text, lists them in the order
of their characters.
-/

namespace EnvelopeStore.Proofs

/-! ### Tasks -/

/-- What a store is asked for. -/
inductive StoreTask
  | set (key : Text) (record : Record)
  | get (key : Text)
  | delete (key : Text)
  | list (start : Text)

/-- What a store answers. -/
inductive StoreAnswer
  | done
  | found (entry : Option Entry)
  | keys (keys : List Value)

def StoreTask.on {σ : Type} (store : Storage σ) : StoreTask → Action σ StoreAnswer
  | .set key record => (fun _ => .done) <$> store.set (.text key) record.entry
  | .get key => .found <$> store.get (.text key)
  | .delete key => (fun _ => .done) <$> store.delete (.text key)
  | .list start => .keys <$> store.list (.text start)

/-- A task names keys of a kind only, and has no record with a pair of surrogates in a text. -/
def StoreTask.Names (kind : Text → Prop) : StoreTask → Prop
  | .set key record => kind key ∧ record.Unpaired
  | .get key | .delete key | .list key => kind key

/-- What tasks leave, whether they succeed or fail. -/
def afterAll {τ ρ σ : Type} (perform : τ → Action σ ρ) (s : σ) (tasks : List τ) : σ :=
  tasks.foldl (fun s task => ((perform task).result s).2) s

/-! ### The map -/

abbrev Contents := Text → Option Record

namespace Contents

def empty : Contents := fun _ => none

def next (kept : Contents) : StoreTask → Contents
  | .set key record => Function.update kept key (some record)
  | .delete key => Function.update kept key none
  | .get _ | .list _ => kept

/-- What a map answers. It lists each key that starts as asked once; `listed` says in which order. -/
inductive Answers (listed : Text → List Text → Prop) (kept : Contents) :
    StoreTask → StoreAnswer → Prop
  | set (key : Text) (record : Record) : Answers listed kept (.set key record) .done
  | get (key : Text) : Answers listed kept (.get key) (.found ((kept key).map Record.entry))
  | delete (key : Text) : Answers listed kept (.delete key) .done
  | list (start : Text) (keys : List Text) (hlisted : listed start keys) (hnodup : keys.Nodup)
      (hmem : ∀ key, key ∈ keys ↔ start <+: key ∧ (kept key).isSome = true) :
      Answers listed kept (.list start) (.keys (keys.map .text))

end Contents

/-- An action does what a map does: it answers the task, and the next records are kept after it. -/
def ActsAsMap {σ : Type} (keeps : Contents → σ → Prop) (listed : σ → Text → List Text → Prop)
    (kept : Contents) (task : StoreTask) (action : Action σ StoreAnswer) (s : σ) : Prop :=
  ∃ answer s', action.result s = (.ok answer, s') ∧ kept.Answers (listed s) task answer ∧
    keeps (kept.next task) s'

/-- Answers that differ at most in the order of the keys that they list. -/
inductive SameAnswer : StoreAnswer → StoreAnswer → Prop
  | done : SameAnswer .done .done
  | found (entry : Option Entry) : SameAnswer (.found entry) (.found entry)
  | keys {keys keys' : List Value} (h : keys.Perm keys') : SameAnswer (.keys keys) (.keys keys')

/-- A map leaves no choice of the answer but for the order of a listing. -/
lemma sameAnswer_of_answers {listed listed' : Text → List Text → Prop} {kept : Contents}
    {task : StoreTask} {answer answer' : StoreAnswer} (h : kept.Answers listed task answer)
    (h' : kept.Answers listed' task answer') : SameAnswer answer answer' := by
  cases h with
  | set | delete =>
    cases h'
    exact .done
  | get =>
    cases h'
    exact .found _
  | list start keys _ hnodup hmem =>
    cases h' with
    | list _ keys' _ hnodup' hmem' =>
      have hperm : keys.Perm keys' := (List.perm_ext_iff_of_nodup hnodup hnodup').mpr fun key =>
        (hmem key).trans (hmem' key).symm
      exact .keys (hperm.map _)

/-! ### A map in memory -/

/-- A map in memory keeps the entries of records. -/
def MemoryKeeps (kept : Contents) (m : Memory) : Prop :=
  (∃ keys, TextKeyed m.bindings keys) ∧ ∀ key, m.get? (.text key) = (kept key).map Record.entry

lemma memoryKeeps_empty : MemoryKeeps .empty .empty := ⟨⟨[], rfl, .nil⟩, fun _ => rfl⟩

section

variable {kept : Contents} {m : Memory}

lemma memoryKeeps_update {m' : Memory} {keys : List Text} {key : Text} {record : Option Record}
    (h : MemoryKeeps kept m) (hkeyed : TextKeyed m'.bindings keys)
    (hget : ∀ other, m'.bindings.get? (.text other) =
      if key = other then record.map Record.entry else m.bindings.get? (.text other)) :
    MemoryKeeps (Function.update kept key record) m' := by
  refine ⟨⟨keys, hkeyed⟩, ?_⟩
  intro other
  have hother : m.bindings.get? (.text other) = (kept other).map Record.entry := h.2 other
  rw [Memory.get?, hget, hother, Function.update_apply]
  by_cases heq : key = other
  · rw [if_pos heq, if_pos heq.symm]
  · rw [if_neg heq, if_neg (Ne.symm heq)]

lemma memoryKeeps_insert (h : MemoryKeeps kept m) (key : Text) (record : Record) :
    MemoryKeeps (Function.update kept key (some record)) (m.insert (.text key) record.entry) := by
  obtain ⟨keys, hkeyed⟩ := h.1
  exact memoryKeeps_update h (textKeyed_insert hkeyed _) fun other =>
    Bindings.get?_insert_text _ _ _ _

lemma memoryKeeps_erase (h : MemoryKeeps kept m) (key : Text) :
    MemoryKeeps (Function.update kept key none) (m.erase (.text key)) := by
  obtain ⟨keys, hkeyed⟩ := h.1
  exact memoryKeeps_update h (textKeyed_erase hkeyed) fun other => Bindings.get?_erase_text _ _ _

theorem memory_acts_as_map (h : MemoryKeeps kept m) (task : StoreTask) :
    ActsAsMap MemoryKeeps (fun _ _ keys => keys.Pairwise Before) kept task
      (task.on Memory.storage) m := by
  cases task with
  | set key record =>
    exact ⟨_, _, result_map_of _ (memory_set m key record.entry), .set key record,
      memoryKeeps_insert h key record⟩
  | get key =>
    refine ⟨_, m, result_map_of _ (memory_get m key), ?_, h⟩
    rw [h.2 key]
    exact .get key
  | delete key =>
    exact ⟨_, _, result_map_of _ (memory_delete m key), .delete key, memoryKeeps_erase h key⟩
  | list start =>
    obtain ⟨⟨keys, hkeyed⟩, hget⟩ := h
    refine ⟨_, m, result_map_of _ (memory_list hkeyed.keys start), ?_, ⟨keys, hkeyed⟩, hget⟩
    have hsorted := sort_pairwise_before (hkeyed.nodup.filter (·.startsWith start))
    refine .list start _ hsorted (hsorted.imp fun hst => hst.2) ?_
    intro key
    have hkept : (kept key).isSome = true ↔ key ∈ keys := by
      rw [← Option.isSome_map (f := Record.entry), ← hget key, Memory.get?,
        get?_isSome_iff hkeyed.keys]
    rw [mem_sort_filter, hkept, and_comm]

end

end EnvelopeStore.Proofs
