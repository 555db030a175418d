import EnvelopeStore.Client
import EnvelopeStore.Polling

/-!
# A world for clients

Clients that share one source of entropy, one store and one trust anchor, each of which has a state
of its own.
-/

namespace EnvelopeStore

/-- The state of everything that clients work with. -/
structure World (S A : Type) where
  entropy : Entropy
  store : S
  anchor : A

namespace World

variable {S A : Type}

def entropyPart : Part (World S A) Entropy := ⟨entropy, fun e w => { w with entropy := e }⟩

def storePart : Part (World S A) S := ⟨store, fun s w => { w with store := s }⟩

def anchorPart : Part (World S A) A := ⟨anchor, fun a w => { w with anchor := a }⟩

def adapters (crypto : Provider Entropy) (storage : Storage S) (anchor : TrustAnchor A) :
    Adapters (World S A) :=
  ⟨crypto.on entropyPart, storage.on storePart, anchor.on anchorPart⟩

end World

/-- Waits until a client can read a text, noting down each pause instead of waiting. -/
def Client.waitForValue {σ : Type} (a : Adapters σ) (c : Client) (key : Text)
    (attempts interval expected : Value) :
    Action (Polling.Watched (Client.State σ)) (Option Text) :=
  Polling.waitForValue ((c.get a key).on Polling.worldPart) (Polling.notedPause interval) attempts
    expected

end EnvelopeStore
