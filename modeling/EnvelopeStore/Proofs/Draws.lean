import EnvelopeStore.Proofs.KeyIds
import EnvelopeStore.Proofs.Metering

/-!
# Keys and nonces are used once

Each text that is written takes a key and a nonce of its own from the source of random bytes, and
nothing else does but a key that is only wrapped to learn a key id. All of these are different parts
of one tape, in any run of any number of clients.
-/

namespace EnvelopeStore.Proofs

/-! ### What calls account for, call by call -/

section

variable {call : Call} {calls : List Call} {draws : List Draw} {key : Key} {text : Value}

/-- Whether random bytes are asked for in a call. -/
def Call.asksForBytes : Call → Bool
  | .generateKey _ | .encrypt .. => true
  | _ => false

lemma AccountsFor.eq_nil (h : AccountsFor call draws) (hcall : call.asksForBytes = false) :
    draws = [] := by
  cases h <;> first | rfl | simp [Call.asksForBytes] at hcall

lemma AccountsFor.key_eq (h : AccountsFor (.generateKey (.ok key)) draws) :
    key.bytes.length = keySize ∧ ∃ position, draws = [⟨position, keySize, some key.bytes⟩] := by
  cases h with
  | key position bytes hsize => exact ⟨hsize, position, rfl⟩
  | other _ h => simp [Call.handlesKey] at h

lemma AccountsFor.noKey_eq {failure : Failure}
    (h : AccountsFor (.generateKey (.error failure)) draws) :
    ∃ position, draws = [⟨position, keySize, none⟩] := by
  cases h with
  | noKey position => exact ⟨position, rfl⟩
  | other _ h => simp [Call.handlesKey] at h

lemma AccountsFor.encrypt_eq {outcome : Except Failure Text} (hkey : key.bytes.length = keySize)
    (h : AccountsFor (.encrypt text key outcome) draws) :
    ∃ position nonce, draws = [⟨position, nonceSize, nonce⟩] ∧
      ∀ t, outcome = .ok t → ∃ bytes body, nonce = some bytes ∧ bytes.length = nonceSize ∧
        t = Payload.toText ⟨bytes, body⟩ := by
  cases h with
  | wrongKey _ _ failure h => exact absurd hkey h
  | noNonce _ _ failure position => exact ⟨position, none, rfl, nofun⟩
  | notEncrypted _ _ failure position nonce => exact ⟨position, some nonce, rfl, nofun⟩
  | encrypted _ _ position nonce body hnonce =>
    refine ⟨position, some nonce, rfl, ?_⟩
    rintro _ ⟨rfl⟩
    exact ⟨nonce, body, rfl, hnonce, rfl⟩
  | other _ h => simp [Call.handlesKey] at h

lemma AccountsFor.exported_eq {exported : Text}
    (h : AccountsFor (.exportKey key (.ok exported)) draws) :
    exported = Base64.encode key.bytes := by
  cases h with
  | exported => rfl
  | other _ h => simp [Call.handlesKey] at h

lemma Accounts.cons_eq (h : Accounts (call :: calls) draws) :
    ∃ first rest, draws = first ++ rest ∧ AccountsFor call first ∧ Accounts calls rest := by
  cases h with
  | cons hcall hrest => exact ⟨_, _, rfl, hcall, hrest⟩

lemma Accounts.eq_nil (h : Accounts calls draws)
    (hcalls : ∀ call ∈ calls, call.asksForBytes = false) : draws = [] := by
  induction h with
  | nil => rfl
  | cons hcall _ ih =>
    rw [hcall.eq_nil (hcalls _ List.mem_cons_self),
      ih fun other hother => hcalls other (List.mem_cons_of_mem _ hother)]
    rfl

lemma Accounts.exported_eq {exported : Text} (h : Accounts calls draws)
    (hmem : .exportKey key (.ok exported) ∈ calls) : exported = Base64.encode key.bytes := by
  induction h with
  | nil => exact absurd hmem List.not_mem_nil
  | cons hcall _ ih =>
    obtain rfl | hmem := List.mem_cons.mp hmem
    · exact hcall.exported_eq
    · exact ih hmem

end

/-! ### What tasks spend -/

/-- The requests of a write: a key and, if it was given, a nonce. -/
inductive SetRequests : List Draw → Prop
  | noKey (position : Nat) : SetRequests [⟨position, keySize, none⟩]
  | keyAndNonce (position position' : Nat) (key : Bytes) (nonce : Option Bytes) :
    SetRequests [⟨position, keySize, some key⟩, ⟨position', nonceSize, nonce⟩]

/-- How a write uses its random bytes: it encrypts with no other key, and what it stores is the key
in wrapped form, and a ciphertext that starts with the nonce. -/
structure SetSpends (c : Client) (calls : List Call) (draws : List Draw) : Prop where
  requests : SetRequests draws
  encrypted : ∀ text key outcome, .encrypt text key outcome ∈ calls →
    ∃ position nonce, draws = [⟨position, keySize, some key.bytes⟩, nonce]
  stored : ∀ fullKey entry outcome, .store fullKey entry outcome ∈ calls →
    ∃ position position' key nonce wrapped ciphertext blob,
      draws = [⟨position, keySize, some key⟩, ⟨position', nonceSize, some nonce⟩] ∧
      .wrap (.text c.groupId) (.text (Base64.encode key)) (.ok wrapped) ∈ calls ∧
      entry.wrappedKey = .text wrapped.wrappedKey ∧
      entry.ciphertext = .text ciphertext ∧ Base64.decode ciphertext = .ok blob ∧
      blob.take nonceSize = nonce

def Spends (c : Client) (asks : Bool) (calls : List Call) (draws : List Draw) : Task → Prop
  | .set _ _ => SetSpends c calls draws
  | .getKeyId =>
    (if asks then ∃ position key, draws = [⟨position, keySize, key⟩] else draws = []) ∧
      ∀ text key outcome, .encrypt text key outcome ∉ calls
  | _ => draws = [] ∧ ∀ text key outcome, .encrypt text key outcome ∉ calls

section

variable {c : Client} {calls : List Call} {draws : List Draw} {key : Text} {text : Value}

lemma not_encrypt_of_silent (h : ∀ call ∈ calls, call.asksForBytes = false) :
    ∀ text key outcome, .encrypt text key outcome ∉ calls := by
  intro text key outcome hmem
  have hasks := h _ hmem
  simp [Call.asksForBytes] at hasks

lemma accounts_start {valueKey : Key} {outcome : Except Failure Text}
    (h : Accounts (.generateKey (.ok valueKey) :: .encrypt text valueKey outcome :: calls) draws)
    (hcalls : ∀ call ∈ calls, call.asksForBytes = false) :
    ∃ position position' nonce,
      draws = [⟨position, keySize, some valueKey.bytes⟩, ⟨position', nonceSize, nonce⟩] ∧
      ∀ t, outcome = .ok t → ∃ bytes body, nonce = some bytes ∧ bytes.length = nonceSize ∧
        t = Payload.toText ⟨bytes, body⟩ := by
  obtain ⟨first, rest, rfl, hfirst, hrest⟩ := h.cons_eq
  obtain ⟨hsize, position, rfl⟩ := hfirst.key_eq
  obtain ⟨second, none, rfl, hsecond, hnone⟩ := hrest.cons_eq
  obtain ⟨position', nonce, rfl, hnonce⟩ := hsecond.encrypt_eq hsize
  rw [hnone.eq_nil hcalls]
  exact ⟨position, position', nonce, rfl, hnonce⟩

lemma setCalls_cases {r : Except Failure Receipt} (h : SetCalls c key text calls r) :
    (∃ failure, calls = [.generateKey (.error failure)]) ∨
    ∃ valueKey outcome rest,
      calls = .generateKey (.ok valueKey) :: .encrypt text valueKey outcome :: rest ∧
      (∀ call ∈ rest, call.asksForBytes = false) ∧
      ∀ fullKey entry stored, .store fullKey entry stored ∈ calls →
        ∃ ciphertext exported wrapped, outcome = .ok ciphertext ∧
          .exportKey valueKey (.ok exported) ∈ calls ∧
          .wrap (.text c.groupId) (.text exported) (.ok wrapped) ∈ calls ∧
          entry.wrappedKey = .text wrapped.wrappedKey ∧ entry.ciphertext = .text ciphertext := by
  -- The five ways to end differ in how far the calls go; only the last of them reaches the store.
  cases h with
  | noKey failure => exact .inl ⟨failure, rfl⟩
  | notEncrypted valueKey failure => exact .inr ⟨valueKey, _, _, rfl, by simp, by simp⟩
  | notExported valueKey ciphertext failure =>
    exact .inr ⟨valueKey, _, _, rfl, by simp [Call.asksForBytes], by simp⟩
  | notWrapped valueKey ciphertext exported failure =>
    exact .inr ⟨valueKey, _, _, rfl, by simp [Call.asksForBytes], by simp⟩
  | stored valueKey ciphertext exported wrapped outcome =>
    refine .inr ⟨valueKey, _, _, rfl, by simp [Call.asksForBytes], ?_⟩
    intro fullKey entry stored hmem
    simp only [List.mem_cons, reduceCtorEq, List.not_mem_nil, or_false, false_or,
      Call.store.injEq] at hmem
    obtain ⟨-, rfl, -⟩ := hmem
    exact ⟨ciphertext, exported, wrapped, rfl, by simp, by simp, rfl, rfl⟩

lemma setSpends_of_accounts {r : Except Failure Receipt} (h : SetCalls c key text calls r)
    (haccounts : Accounts calls draws) : SetSpends c calls draws := by
  obtain ⟨failure, rfl⟩ | ⟨valueKey, outcome, rest, rfl, hsilent, hstored⟩ := setCalls_cases h
  · obtain ⟨first, rest, rfl, hfirst, hrest⟩ := haccounts.cons_eq
    obtain ⟨position, rfl⟩ := hfirst.noKey_eq
    rw [hrest.eq_nil fun _ hcall => absurd hcall List.not_mem_nil]
    exact ⟨.noKey position, by simp, by simp⟩
  · obtain ⟨position, position', nonce, rfl, hnonce⟩ := accounts_start haccounts hsilent
    refine ⟨.keyAndNonce _ _ _ _, ?_, ?_⟩
    · intro text' key' outcome' hmem
      simp only [List.mem_cons, reduceCtorEq, false_or, Call.encrypt.injEq] at hmem
      obtain ⟨-, rfl, -⟩ | hmem := hmem
      · exact ⟨position, _, rfl⟩
      · exact absurd hmem (not_encrypt_of_silent hsilent _ _ _)
    · intro fullKey entry stored hmem
      obtain ⟨ciphertext, exported, wrapped, hciphertext, hexport, hwrap, hkey, hentry⟩ :=
        hstored fullKey entry stored hmem
      obtain ⟨bytes, body, rfl, hsize, rfl⟩ := hnonce ciphertext hciphertext
      obtain rfl := haccounts.exported_eq hexport
      refine ⟨position, position', valueKey.bytes, bytes, wrapped, _, _, rfl, hwrap, hkey, hentry,
        base64_decode_encode _, ?_⟩
      rw [Payload.toBlob, ← hsize, List.take_left]

lemma accounts_of_ask {direct : Bool} {r : Except Failure Text}
    (h : AskCalls c direct calls r) (haccounts : Accounts calls draws) :
    if direct then draws = [] else ∃ position key, draws = [⟨position, keySize, key⟩] := by
  cases h with
  | lookedUp =>
    exact haccounts.eq_nil (by simp [Call.asksForBytes])
  | noKey failure =>
    obtain ⟨first, rest, rfl, hfirst, hrest⟩ := haccounts.cons_eq
    obtain ⟨position, rfl⟩ := hfirst.noKey_eq
    rw [hrest.eq_nil (by simp)]
    exact ⟨position, none, rfl⟩
  | notExported throwaway failure =>
    obtain ⟨first, rest, rfl, hfirst, hrest⟩ := haccounts.cons_eq
    obtain ⟨-, position, rfl⟩ := hfirst.key_eq
    rw [hrest.eq_nil (by simp [Call.asksForBytes])]
    exact ⟨position, _, rfl⟩
  | wrapped throwaway exported outcome =>
    obtain ⟨first, rest, rfl, hfirst, hrest⟩ := haccounts.cons_eq
    obtain ⟨-, position, rfl⟩ := hfirst.key_eq
    rw [hrest.eq_nil (by simp [Call.asksForBytes])]
    exact ⟨position, _, rfl⟩

lemma not_encrypt_of_ask {direct : Bool} {r : Except Failure Text}
    (h : AskCalls c direct calls r) : ∀ text key outcome, .encrypt text key outcome ∉ calls := by
  cases h <;> simp

lemma silent_of_getCalls {r : Except Failure (Option Text)} (h : GetCalls c key calls r) :
    ∀ call ∈ calls, call.asksForBytes = false := by
  cases h <;> simp [Call.asksForBytes]

end

/-! ### One turn -/

section

variable {σ : Type} {a : Adapters σ} {c : Client} {s : Client.State σ}

lemma list_runs (a : Adapters σ) (c : Client) (start : Text) (s : Client.State σ) :
    ∃ outcome r s', Runs (c.list a start) (c.list (notedAdapters a) start) s
      [.list (.text (c.fullKey start)) outcome] r s' := by
  obtain ⟨failure, w, h⟩ | ⟨keys, w, h⟩ :=
    outcome_cases (a.storage.list (.text (c.fullKey start))) s.world
  · exact ⟨_, _, _, runs_bind_error (runs_call (.list _) h)⟩
  · have hrun := runs_call (.list (.text (c.fullKey start))) h
    cases hown : keys.mapM c.ownKey? with
    | error failure =>
      exact ⟨_, _, _, runs_bind hrun (runs_bind_error (runs_ofExcept hown _))⟩
    | ok own =>
      refine ⟨_, .ok (own.filterMap id), ⟨w, s.keyId⟩,
        runs_bind hrun (runs_bind (runs_ofExcept hown _) ?_)⟩
      exact runs_pure _ _

lemma spends_of_accounts {task : Task} {draws : List Draw}
    (h : Accounts (callsOf a c s task) draws) :
    Spends c (s.keyId.isNone && !a.anchor.lookup?.isSome) (callsOf a c s task) draws task := by
  cases task with
  | set key text =>
    obtain ⟨calls, r, s', hrun, hcalls, -⟩ := set_runs a c key (.text text) s
    obtain ⟨heq, -, -⟩ := callsOf_of_runs (.set key text) (runs_map Response.receipt hrun)
    rw [heq] at h ⊢
    exact setSpends_of_accounts hcalls h
  | get key =>
    obtain ⟨calls, r, s', hrun, hcalls, -⟩ := get_runs a c key s
    obtain ⟨heq, -, -⟩ := callsOf_of_runs (.get key) (runs_map Response.text hrun)
    rw [heq] at h ⊢
    have hsilent := silent_of_getCalls hcalls
    exact ⟨h.eq_nil hsilent, not_encrypt_of_silent hsilent⟩
  | delete key =>
    have hrun := runs_call (.erase (.text (c.fullKey key))) rfl (s := s)
      (x := a.storage.delete (.text (c.fullKey key)))
    obtain ⟨heq, -, -⟩ := callsOf_of_runs (.delete key) (runs_map Response.receipt hrun)
    rw [heq] at h ⊢
    exact ⟨h.eq_nil (by simp [Call.asksForBytes]), by simp⟩
  | list start =>
    obtain ⟨outcome, r, s', hrun⟩ := list_runs a c start s
    obtain ⟨heq, -, -⟩ := callsOf_of_runs (.list start) (runs_map Response.keys hrun)
    rw [heq] at h ⊢
    exact ⟨h.eq_nil (by simp [Call.asksForBytes]), by simp⟩
  | getKeyId =>
    cases hknown : s.keyId with
    | some id =>
      obtain ⟨heq, -, -⟩ := callsOf_of_runs .getKeyId
        (runs_map Response.keyId (getKeyId_of_known a c hknown))
      rw [heq] at h ⊢
      exact ⟨h.eq_nil (by simp), by simp⟩
    | none =>
      obtain ⟨calls, r, s', hrun, hask, -⟩ := getKeyId_of_unknown a c hknown
      obtain ⟨heq, -, -⟩ := callsOf_of_runs .getKeyId (runs_map Response.keyId hrun)
      rw [heq] at h ⊢
      refine ⟨?_, not_encrypt_of_ask hask⟩
      have hspent := accounts_of_ask hask h
      cases hdirect : a.anchor.lookup?.isSome with
      | true => simpa [hdirect] using hspent
      | false => simpa [hdirect] using hspent

end

section

variable {ι S A : Type} [DecidableEq ι] (suite : ι → Suite) (storage : ι → Storage S)
  (anchor : ι → TrustAnchor A) (c : ι → Client)

/-- Clients on metered adapters as they are without the requests. -/
def Crew.unmetered {σ : Type} (crew : Crew ι (Metered σ)) : Crew ι σ :=
  ⟨crew.world.world, crew.known⟩

/-- A turn on metered adapters is one on those of the world, and tells what it spends. -/
lemma metered_step (crew : Crew ι (Metered (World S A))) (i : ι) (task : Task) :
    let metered := fun j => meteredAdapters (suite j) (storage j) (anchor j)
    let plain := fun j => World.adapters (suite j).provider (storage j) (anchor j)
    let turn := crew.step metered c (i, task)
    crew.unmetered.step plain c (i, task) = (turn.1, turn.2.unmetered) ∧
      ∃ draws, turn.2.world.draws = crew.world.draws ++ draws ∧
        Consecutive crew.world.world.entropy draws turn.2.world.world.entropy ∧
        Spends (c i) ((crew.known i).isNone && (anchor i).lookup?.isNone)
          (crew.calls metered c (i, task)) draws task := by
  intro metered plain turn
  obtain ⟨calls, draws, r, s', hrun⟩ :=
    accounted_doTask (suite i) (storage i) (anchor i) (c i) task (crew.view i)
  obtain ⟨hcalls, hresult, hafter⟩ := callsOf_of_runs task hrun.runs
  have hturn : turn = (r, (Crew.part i).put s' crew) := by
    rw [← hafter]
    exact (Crew.step_eq metered c crew i task).trans (by rw [hresult])
  have hplain : crew.unmetered.step plain c (i, task) =
      (r, (Crew.part i).put (unmetered s') crew.unmetered) := by
    rw [Crew.step_eq, afterTask]
    exact congrArg (fun run => (run.1, (Crew.part i).put run.2 crew.unmetered)) hrun.plain
  have haccounts : Accounts (callsOf (metered i) (c i) (crew.view i) task) draws := by
    rw [hcalls]
    exact hrun.accounts
  have hlookup : (metered i).anchor.lookup?.isSome = (anchor i).lookup?.isSome := by
    simp [metered, meteredAdapters, TrustAnchor.on]
  have hspends := spends_of_accounts haccounts
  rw [hlookup, Option.not_isSome] at hspends
  rw [hplain, hturn]
  exact ⟨rfl, draws, hrun.requested, hrun.consecutive, hspends⟩

lemma metered_after (crew : Crew ι (Metered (World S A))) (turns : List (ι × Task)) :
    let metered := fun j => meteredAdapters (suite j) (storage j) (anchor j)
    let plain := fun j => World.adapters (suite j).provider (storage j) (anchor j)
    (crew.after metered c turns).unmetered = crew.unmetered.after plain c turns ∧
      ∃ draws, (crew.after metered c turns).world.draws = crew.world.draws ++ draws ∧
        Consecutive crew.world.world.entropy draws
          (crew.after metered c turns).world.world.entropy := by
  intro metered plain
  -- On the turns: the requests of each start where those before it have left the source.
  induction turns generalizing crew with
  | nil => exact ⟨rfl, [], (List.append_nil _).symm, .nil _⟩
  | cons turn rest ih =>
    obtain ⟨i, task⟩ := turn
    obtain ⟨hplain, draws, hdraws, hconsecutive, -⟩ :=
      metered_step suite storage anchor c crew i task
    obtain ⟨hsame, draws', hdraws', hconsecutive'⟩ := ih (crew.step metered c (i, task)).2
    refine ⟨?_, draws ++ draws', ?_, hconsecutive.append hconsecutive'⟩
    · rw [Crew.after, hsame, Crew.after]
      rw [hplain]
    · rw [Crew.after, hdraws', hdraws, List.append_assoc]

/-- Any number of clients share one source of random bytes, whatever their stores and trust anchors
answer. Each text that is written is encrypted with a key that was drawn for it and under a nonce
drawn after it, and both go into what is stored; apart from that, only a key that is wrapped to
learn a key id is drawn, and nothing is encrypted with it. All requests of a run follow on each
other: each gets the next bytes or takes none, so no byte is given twice. Metering them changes
nothing. -/
theorem random_bytes_are_used_once (w : World S A) (before : List (ι × Task)) (i : ι)
    (task : Task) :
    let metered := fun j => meteredAdapters (suite j) (storage j) (anchor j)
    let plain := fun j => World.adapters (suite j).provider (storage j) (anchor j)
    let crew := (Crew.start ⟨w, []⟩).after metered c before
    let turn := crew.step metered c (i, task)
    (crew.unmetered = (Crew.start w).after plain c before ∧
      crew.unmetered.step plain c (i, task) = (turn.1, turn.2.unmetered)) ∧
    ∃ draws, turn.2.world.draws = crew.world.draws ++ draws ∧
      Spends (c i) ((crew.known i).isNone && (anchor i).lookup?.isNone)
        (crew.calls metered c (i, task)) draws task ∧
      Consecutive w.entropy (crew.world.draws ++ draws) turn.2.world.world.entropy ∧
      (crew.world.draws ++ draws).Pairwise fun d d' => d.stop ≤ d'.position := by
  intro metered plain crew turn
  obtain ⟨hsame, earlier, hearlier, hconsecutive⟩ :=
    metered_after suite storage anchor c (Crew.start ⟨w, []⟩) before
  obtain ⟨hplain, draws, hdraws, hconsecutive', hspends⟩ :=
    metered_step suite storage anchor c crew i task
  have hrun : Consecutive w.entropy (crew.world.draws ++ draws) turn.2.world.world.entropy := by
    rw [show crew.world.draws = earlier from hearlier]
    exact hconsecutive.append hconsecutive'
  exact ⟨⟨hsame, hplain⟩, draws, hdraws, hspends, hrun, hrun.pairwise⟩

end

/-- A key for the key id, then key and nonce of a text, and at last a key that is refused. -/
example :
    let alice : Client := ⟨"alice", "privatekv", "private", by decide, by decide, by decide⟩
    let a := fun _ : Bool =>
      meteredAdapters .streaming Memory.storage Registry.anchor.wrapOnly
    let w : World Memory Registry := ⟨Entropy.ofBytes (List.replicate 80 7), .empty, .start []⟩
    let crew := (Crew.start ⟨w, []⟩).after a (fun _ => alice)
      [(true, .getKeyId), (false, .set "k" "hi"), (false, .getKeyId), (true, .set "k" "no")]
    crew.world.draws.map (fun d => (d.position, d.stop)) =
      [(0, 32), (32, 64), (64, 76), (76, 76)] := by
  decide +kernel

end EnvelopeStore.Proofs
