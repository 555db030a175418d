import EnvelopeStore.Proofs.CallOrder
import Mathlib.Data.List.Forall2
import Mathlib.Data.Nat.Find

/-!
# Waiting for a write

Waiting reads up to the first read that is final, which fails or shows what is waited for, and not
more often than it may. There is one pause between two reads and none after the last. This is shown
for clients on any adapters, whose reads may come to anything one after the other.
-/

namespace EnvelopeStore.Proofs
open Polling

/-! ### What waiting comes to -/

abbrev ReadOutcome := Except Failure (Option Text)

/-- A read after which there is no other: it fails, or it shows the expected text, or any text if
none is expected. -/
inductive Final (expected : Option Text) : ReadOutcome → Prop
  | failed (failure : Failure) : Final expected (.error failure)
  | shown (t : Text) (h : ∀ e ∈ expected, t = e) : Final expected (.ok (some t))

/-- After how many reads waiting ends, and with what. -/
inductive EndsAfter (outcomes : Nat → ReadOutcome) (attempts : Int) (expected : Option Text) :
    Nat → ReadOutcome → Prop
  | refused (h : attempts < 1) :
    EndsAfter outcomes attempts expected 0 (.error (.config (.tooFewAttempts (.int attempts))))
  | first (i : Nat) (hi : i < attempts) (hbefore : ∀ j < i, ¬Final expected (outcomes j))
      (h : Final expected (outcomes i)) :
    EndsAfter outcomes attempts expected (i + 1) (outcomes i)
  | never (hattempts : 1 ≤ attempts) (h : ∀ j : Nat, j < attempts → ¬Final expected (outcomes j)) :
    EndsAfter outcomes attempts expected attempts.toNat (.ok none)

def sought (expected : Option Text) : Value := .ofOption (expected.map .text)

section

variable {outcomes : Nat → ReadOutcome} {attempts : Int} {expected : Option Text}

lemma exists_endsAfter (outcomes : Nat → ReadOutcome) (attempts : Int) (expected : Option Text) :
    ∃ reads outcome, EndsAfter outcomes attempts expected reads outcome := by
  classical
  by_cases hattempts : attempts < 1
  · exact ⟨_, _, .refused hattempts⟩
  by_cases h : ∃ i : Nat, i < attempts ∧ Final expected (outcomes i)
  · obtain ⟨hi, hfinal⟩ := Nat.find_spec h
    refine ⟨_, _, .first (Nat.find h) hi ?_ hfinal⟩
    intro j hj hother
    exact Nat.find_min h hj ⟨by omega, hother⟩
  · exact ⟨_, _, .never (by omega) fun j hj hother => h ⟨j, hj, hother⟩⟩

lemma expected_of_endsAfter {reads : Nat} {t : Text}
    (h : EndsAfter outcomes attempts expected reads (.ok (some t))) : ∀ e ∈ expected, t = e := by
  generalize houtcome : (.ok (some t) : ReadOutcome) = outcome at h
  cases h with
  | refused => exact nomatch houtcome
  | first i _ _ hfinal =>
    rw [← houtcome] at hfinal
    cases hfinal with
    | shown _ hexpected => exact hexpected
  | never => exact nomatch houtcome

lemma isExpected_iff {v : Option Text} :
    isExpected (sought expected) v = true ↔ Final expected (.ok v) := by
  constructor
  · intro h
    cases v with
    | none => exact nomatch h
    | some t =>
      refine .shown t ?_
      rintro e rfl
      exact (beq_iff_eq.mp h).symm
  · rintro (_ | ⟨t, ht⟩)
    cases expected with
    | none => rfl
    | some e => exact beq_iff_eq.mpr (ht e rfl).symm

end

/-! ### Noting down reads and pauses -/

section

variable {σ τ β : Type}

def afterReads (read : Action σ (Option Text)) (s : σ) : Nat → σ
  | 0 => s
  | n + 1 => (read.result (afterReads read s n)).2

/-- The outcome of the read that comes after so many others. -/
def outcomeAt (read : Action σ (Option Text)) (s : σ) (n : Nat) : ReadOutcome :=
  (read.result (afterReads read s n)).1

/-- Reads and pauses on a state with notes: a read notes down something of its outcome, and a pause
always the same. -/
structure Notes (read : Action σ (Option Text)) (state : σ → List β → τ)
    (onRead : ReadOutcome → List β) (onPause : List β) (read' : Action τ (Option Text))
    (pause : Action τ Unit) : Prop where
  read : ∀ s notes, read'.result (state s notes) =
    ((read.result s).1, state (read.result s).2 (notes ++ onRead (read.result s).1))
  pause : ∀ s notes, pause.result (state s notes) = (.ok ⟨⟩, state s (notes ++ onPause))

def turns (onRead : ReadOutcome → List β) (onPause : List β) (outcomes : Nat → ReadOutcome)
    (n : Nat) : List β :=
  (List.range n).flatMap fun i => onRead (outcomes i) ++ onPause

variable {read : Action σ (Option Text)} {state : σ → List β → τ} {onRead : ReadOutcome → List β}
  {onPause : List β} {read' : Action τ (Option Text)} {pause : Action τ Unit}
  {expected : Option Text} {s : σ} {notes : List β} {attempts : Int} {reads n i : Nat}
  {outcome : ReadOutcome}

lemma turns_succ (outcomes : Nat → ReadOutcome) :
    turns onRead onPause outcomes (n + 1) =
      turns onRead onPause outcomes n ++ (onRead (outcomes n) ++ onPause) := by
  rw [turns, List.range_succ, List.flatMap_append, List.flatMap_singleton]
  rfl

lemma poll_final (hnotes : Notes read state onRead onPause read' pause)
    (h : Final expected (read.result s).1) :
    (poll read' pause (sought expected) (n + 1)).result (state s notes) =
      ((read.result s).1, state (read.result s).2 (notes ++ onRead (read.result s).1)) := by
  have hread := hnotes.read s notes
  rw [poll]
  cases hresult : (read.result s).1 with
  | error failure =>
    rw [hresult] at hread
    rw [result_bind_of_error hread]
  | ok v =>
    rw [hresult] at hread h
    rw [result_bind_of_ok hread, if_pos (isExpected_iff.mpr h), result_pure]

/-- After a read that is not final, nothing follows but the remaining attempts. -/
lemma poll_not_final (hnotes : Notes read state onRead onPause read' pause)
    (h : ¬Final expected (read.result s).1) :
    (poll read' pause (sought expected) (n + 1)).result (state s notes) =
      if n = 0 then (.ok none, state (read.result s).2 (notes ++ onRead (read.result s).1))
      else (poll read' pause (sought expected) n).result
        (state (read.result s).2 (notes ++ (onRead (read.result s).1 ++ onPause))) := by
  have hread := hnotes.read s notes
  rw [poll]
  cases hresult : (read.result s).1 with
  | error failure => exact absurd (hresult ▸ .failed failure) h
  | ok v =>
    rw [hresult] at hread h
    rw [result_bind_of_ok hread, if_neg (mt isExpected_iff.mp h)]
    by_cases hn : n = 0
    · rw [if_pos hn, if_pos hn, result_pure]
    · rw [if_neg hn, if_neg hn, result_bind_of_ok (hnotes.pause _ _), List.append_assoc]

lemma poll_skip (hnotes : Notes read state onRead onPause read' pause)
    (h : ∀ j < i, ¬Final expected (outcomeAt read s j)) :
    (poll read' pause (sought expected) (n + 1 + i)).result (state s notes) =
      (poll read' pause (sought expected) (n + 1)).result
        (state (afterReads read s i) (notes ++ turns onRead onPause (outcomeAt read s) i)) := by
  induction i generalizing n with
  | zero => rw [turns, List.range_zero, List.flatMap_nil, List.append_nil]; rfl
  | succ i ih =>
    have hbefore : ∀ j < i, ¬Final expected (outcomeAt read s j) := fun j hj => h j (by omega)
    have hlast : ¬Final expected (read.result (afterReads read s i)).1 := h i (Nat.lt_succ_self i)
    have hskip := ih (n := n + 1) hbefore
    rw [show n + 1 + (i + 1) = n + 1 + 1 + i by omega, hskip, poll_not_final hnotes hlast,
      if_neg (Nat.succ_ne_zero n), turns_succ, List.append_assoc]
    rfl

/-- The notes of so many reads with a pause between each two. -/
def notesOf (onRead : ReadOutcome → List β) (onPause : List β) (outcomes : Nat → ReadOutcome) :
    Nat → List β
  | 0 => []
  | n + 1 => turns onRead onPause outcomes n ++ onRead (outcomes n)

lemma attemptsOf_int (h : 1 ≤ attempts) : attemptsOf (.int attempts) = .ok attempts.toNat :=
  if_neg (by omega)

lemma wait_result (hnotes : Notes read state onRead onPause read' pause)
    (h : EndsAfter (outcomeAt read s) attempts expected reads outcome) :
    (waitForValue read' pause (.int attempts) (sought expected)).result (state s notes) =
      (outcome, state (afterReads read s reads)
        (notes ++ notesOf onRead onPause (outcomeAt read s) reads)) := by
  rw [waitForValue]
  cases h with
  | refused hattempts =>
    have hrefused : attemptsOf (.int attempts) =
        .error (.config (.tooFewAttempts (.int attempts))) := if_pos hattempts
    rw [hrefused, result_bind_of_error (result_ofExcept _ _), notesOf, List.append_nil]
    rfl
  | first i hi hbefore hfinal =>
    obtain ⟨n, hn⟩ : ∃ n, attempts.toNat = n + 1 + i := ⟨attempts.toNat - 1 - i, by omega⟩
    rw [attemptsOf_int (by omega), result_bind_of_ok (result_ofExcept _ _), hn,
      poll_skip hnotes hbefore, poll_final hnotes hfinal, notesOf, List.append_assoc]
    rfl
  | never hattempts hnone =>
    obtain ⟨i, hi⟩ : ∃ i, attempts.toNat = 0 + 1 + i := ⟨attempts.toNat - 1, by omega⟩
    have hbefore : ∀ j < i, ¬Final expected (outcomeAt read s j) :=
      fun j hj => hnone j (by omega)
    have hlast : ¬Final expected (read.result (afterReads read s i)).1 := hnone i (by omega)
    rw [attemptsOf_int hattempts, result_bind_of_ok (result_ofExcept _ _), hi,
      poll_skip hnotes hbefore, poll_not_final hnotes hlast, if_pos rfl, Nat.add_comm, notesOf,
      List.append_assoc]
    rfl

end

/-! ### Two ways of noting down -/

/-- What happens while waiting. -/
inductive Event
  | read (outcome : ReadOutcome)
  | pause (interval : Value)

/-- A state with the events so far. -/
structure Traced (σ : Type) where
  world : σ
  events : List Event

section

variable {σ : Type} (read : Action σ (Option Text)) (interval : Value)

def tracedRead : Action (Traced σ) (Option Text) := fun s =>
  match read s.world with
  | .ok v w => .ok v ⟨w, s.events ++ [.read (.ok v)]⟩
  | .error failure w => .error failure ⟨w, s.events ++ [.read (.error failure)]⟩

def tracedPause : Action (Traced σ) Unit :=
  modify fun s => { s with events := s.events ++ [.pause interval] }

lemma notes_traced : Notes read Traced.mk (fun outcome => [.read outcome]) [.pause interval]
    (tracedRead read) (tracedPause interval) where
  read s events := by
    unfold Action.result tracedRead
    cases read s <;> rfl
  pause _ _ := rfl

lemma notes_paused : Notes read Polling.Watched.mk (fun _ => []) [interval]
    (read.on worldPart) (notedPause interval) where
  read s pauses := by
    rw [result_on, List.append_nil]
    rfl
  pause _ _ := rfl

variable (outcomes : Nat → ReadOutcome) (n : Nat)

lemma intersperse_concat {α : Type} (sep a b : α) (l : List α) :
    (a :: l ++ [b]).intersperse sep = (a :: l).intersperse sep ++ [sep, b] := by
  induction l generalizing a with
  | nil => rfl
  | cons c l ih =>
    rw [List.cons_append, List.cons_append, List.intersperse_cons_cons, ← List.cons_append, ih,
      List.intersperse_cons_cons]
    rfl

lemma notesOf_traced :
    notesOf (fun outcome => [.read outcome]) [.pause interval] outcomes n =
      ((List.range n).map fun i => Event.read (outcomes i)).intersperse (.pause interval) := by
  cases n with
  | zero => rfl
  | succ n =>
    induction n with
    | zero => rfl
    | succ n ih =>
      have hcons : (List.range (n + 1)).map (fun i => Event.read (outcomes i)) =
        .read (outcomes 0) :: (List.range n).map fun i => .read (outcomes (i + 1)) := by
        simp [List.range_succ_eq_map]
      rw [List.range_succ, List.map_append, List.map_singleton, hcons, intersperse_concat, ← hcons,
        ← ih, notesOf, notesOf, turns_succ]
      simp only [List.append_assoc, List.cons_append, List.nil_append]

lemma notesOf_paused :
    notesOf (fun _ => []) [interval] outcomes n = List.replicate (n - 1) interval := by
  cases n with
  | zero => rfl
  | succ n =>
    have hturns : turns (fun _ => []) [interval] outcomes n =
        (List.range n).map fun _ => interval := List.map_eq_flatMap.symm
    rw [notesOf, hturns, List.map_const', List.length_range, List.append_nil, Nat.add_sub_cancel]

end

/-! ### Calls -/

section

variable {σ : Type} (a : Adapters σ) (c : Client) (key : Text) (s : Client.State σ)

/-- Reads on watched adapters make the calls of each read, one after the other, and come to the same
as the reads on the adapters themselves. -/
lemma reads_noted (n : Nat) :
    ∃ blocks, List.Forall₂ (GetCalls c key) blocks
        ((List.range n).map (outcomeAt (c.get a key) s)) ∧
      (∀ call ∈ blocks.flatten, call.isWrite = false) ∧
      ∀ before, afterReads (c.get (notedAdapters a) key) (notedState s before) n =
        notedState (afterReads (c.get a key) s n) (before ++ blocks.flatten) := by
  induction n with
  | zero =>
    refine ⟨[], .nil, by simp, ?_⟩
    intro before
    rw [List.flatten_nil, List.append_nil]
    rfl
  | succ n ih =>
    obtain ⟨blocks, hblocks, hwrites, hstates⟩ := ih
    obtain ⟨calls, r, s', hruns, hcalls, -⟩ := get_runs a c key (afterReads (c.get a key) s n)
    have hflatten : (blocks ++ [calls]).flatten = blocks.flatten ++ calls := by simp
    have houtcome : outcomeAt (c.get a key) s n = r := congrArg Prod.fst hruns.plain
    have hstate : afterReads (c.get a key) s (n + 1) = s' := congrArg Prod.snd hruns.plain
    refine ⟨blocks ++ [calls], ?_, ?_, ?_⟩
    · rw [List.range_succ, List.map_append]
      exact List.rel_append hblocks (.cons (houtcome ▸ hcalls) .nil)
    · intro call hcall
      rw [hflatten, List.mem_append] at hcall
      exact hcall.elim (hwrites call) (getCalls_no_write hcalls call)
    · intro before
      rw [afterReads, hstates, hruns.noted, hstate, hflatten, List.append_assoc]

lemma outcomeAt_noted (before : List Call) :
    outcomeAt (c.get (notedAdapters a) key) (notedState s before) = outcomeAt (c.get a key) s := by
  funext n
  obtain ⟨blocks, -, -, hstates⟩ := reads_noted a c key s n
  obtain ⟨calls, r, s', hruns, -⟩ := get_runs a c key (afterReads (c.get a key) s n)
  rw [outcomeAt, hstates, hruns.noted, outcomeAt, hruns.plain]

end

/-! ### Outcomes given beforehand -/

def scripted : Adapters (Nat → ReadOutcome) where
  crypto := {
    generateKey := throw .entropyExhausted
    exportKey := fun _ => throw .entropyExhausted
    importKey := fun _ => return ⟨[]⟩
    encrypt := fun _ _ => throw .entropyExhausted
    decrypt := fun v _ => return v.text?.getD [] }
  storage := {
    set := fun _ _ => return {}
    get := fun _ outcomes =>
      let left := fun n => outcomes (n + 1)
      match outcomes 0 with
      | .ok found => .ok (found.map fun t => .current [] t []) left
      | .error failure => .error failure left
    delete := fun _ => return {}
    list := fun _ => return [] }
  anchor := {
    wrap := fun _ _ => return ⟨[], []⟩
    unwrap := fun _ _ => return ⟨.null, []⟩
    lookup? := none }

lemma get_scripted (c : Client) (key : Text) (s : Client.State (Nat → ReadOutcome)) :
    ((c.get scripted key).result s).1 = s.world 0 ∧
      ((c.get scripted key).result s).2.world = fun n => s.world (n + 1) := by
  have hload : (Client.outside (scripted.storage.get (.text (c.fullKey key)))).result s =
      ((s.world 0).map fun found => found.map fun t => .current [] t [],
        { s with world := fun n => s.world (n + 1) }) := by
    rw [result_outside]
    simp only [scripted, Action.result]
    cases s.world 0 <;> rfl
  rw [Client.get]
  cases hnext : s.world 0 with
  | error failure =>
    rw [hnext] at hload
    rw [result_bind_of_error hload]
    exact ⟨rfl, rfl⟩
  | ok found =>
    rw [hnext] at hload
    rw [result_bind_of_ok hload]
    cases found with
    | none => exact ⟨rfl, rfl⟩
    | some t => exact ⟨rfl, rfl⟩

lemma outcomeAt_scripted (c : Client) (key : Text) (outcomes : Nat → ReadOutcome) :
    outcomeAt (c.get scripted key) ⟨outcomes, none⟩ = outcomes := by
  have hleft : ∀ n, (afterReads (c.get scripted key) ⟨outcomes, none⟩ n).world =
      fun i => outcomes (i + n) := by
    intro n
    induction n with
    | zero => rfl
    | succ n ih =>
      rw [afterReads, (get_scripted c key _).2, ih]
      funext i
      exact congrArg outcomes (by omega)
  funext n
  rw [outcomeAt, (get_scripted c key _).1, hleft]
  exact congrArg outcomes (Nat.zero_add n)

/-! ### Clients -/

/-- A client that waits makes so many reads, with one pause between each two and none after the
last, and comes to an outcome. Besides the calls of its reads, none of which asks a store to write,
it makes no calls. -/
structure Waits {σ : Type} (a : Adapters σ) (c : Client) (key : Text) (attempts : Int)
    (interval : Value) (expected : Option Text) (s : Client.State σ) (reads : Nat)
    (outcome : ReadOutcome) : Prop where
  result : ∀ pauses, (c.waitForValue a key (.int attempts) interval (sought expected)).result
      ⟨s, pauses⟩ =
    (outcome, ⟨afterReads (c.get a key) s reads, pauses ++ List.replicate (reads - 1) interval⟩)
  events : ∀ before, (waitForValue (tracedRead (c.get a key)) (tracedPause interval)
      (.int attempts) (sought expected)).result ⟨s, before⟩ =
    (outcome, ⟨afterReads (c.get a key) s reads, before ++
      ((List.range reads).map fun i => Event.read (outcomeAt (c.get a key) s i)).intersperse
        (.pause interval)⟩)
  calls : ∃ blocks, List.Forall₂ (GetCalls c key) blocks
      ((List.range reads).map (outcomeAt (c.get a key) s)) ∧
    (∀ call ∈ blocks.flatten, call.isWrite = false) ∧
    ∀ before pauses, (c.waitForValue (notedAdapters a) key (.int attempts) interval
        (sought expected)).result ⟨notedState s before, pauses⟩ =
      (outcome, ⟨notedState (afterReads (c.get a key) s reads) (before ++ blocks.flatten),
        pauses ++ List.replicate (reads - 1) interval⟩)

section

variable {σ : Type} {a : Adapters σ} {c : Client} {key : Text} {attempts : Int} {interval : Value}
  {expected : Option Text} {s : Client.State σ} {reads : Nat} {outcome : ReadOutcome}

lemma waitForValue_result
    (h : EndsAfter (outcomeAt (c.get a key) s) attempts expected reads outcome)
    (pauses : List Value) :
    (c.waitForValue a key (.int attempts) interval (sought expected)).result ⟨s, pauses⟩ =
      (outcome,
        ⟨afterReads (c.get a key) s reads, pauses ++ List.replicate (reads - 1) interval⟩) := by
  rw [← notesOf_paused]
  exact wait_result (notes_paused _ interval) h

lemma waits_of_endsAfter
    (h : EndsAfter (outcomeAt (c.get a key) s) attempts expected reads outcome) :
    Waits a c key attempts interval expected s reads outcome := by
  refine ⟨waitForValue_result h, ?_, ?_⟩
  · intro before
    rw [← notesOf_traced]
    exact wait_result (notes_traced _ interval) h
  · obtain ⟨blocks, hblocks, hwrites, hstates⟩ := reads_noted a c key s reads
    refine ⟨blocks, hblocks, hwrites, ?_⟩
    intro before pauses
    have hnoted : EndsAfter (outcomeAt (c.get (notedAdapters a) key) (notedState s before)) attempts
        expected reads outcome := by
      rwa [outcomeAt_noted]
    rw [← hstates]
    exact waitForValue_result hnoted pauses

end

/-- Waiting is refused when it may not read at all. Else it reads up to the first read that fails or
shows what is waited for, and comes to the outcome of that one; if there is none among the reads
that it may make, it makes them all and comes to nothing. What reads come to is open: any sequence
of outcomes is that of the reads of a client on some adapters. -/
theorem waiting_ends_after_first_final_read {σ : Type} (a : Adapters σ) (c : Client) (key : Text)
    (attempts : Int) (interval : Value) (expected : Option Text) (s : Client.State σ) :
    (∃ reads outcome, EndsAfter (outcomeAt (c.get a key) s) attempts expected reads outcome ∧
      Waits a c key attempts interval expected s reads outcome ∧
      ∀ t, outcome = .ok (some t) → ∀ e ∈ expected, t = e) ∧
    ∀ outcomes : Nat → ReadOutcome, ∃ (τ : Type) (b : Adapters τ) (w : Client.State τ),
      outcomeAt (c.get b key) w = outcomes := by
  refine ⟨?_, ?_⟩
  · obtain ⟨reads, outcome, hends⟩ :=
      exists_endsAfter (outcomeAt (c.get a key) s) attempts expected
    refine ⟨reads, outcome, hends, waits_of_endsAfter hends, ?_⟩
    rintro t rfl
    exact expected_of_endsAfter hends
  · intro outcomes
    exact ⟨_, scripted, ⟨outcomes, none⟩, outcomeAt_scripted c key outcomes⟩

end EnvelopeStore.Proofs
