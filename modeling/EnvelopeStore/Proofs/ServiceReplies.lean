import EnvelopeStore.Proofs.Answers
import EnvelopeStore.Proofs.CanonicalRecords
import EnvelopeStore.Proofs.RowService

/-!
# What is made of replies

Nothing is known of what a service replies but a status and a body. A reply that refuses a request
is a failure of the storage. Any other one is picked apart as it comes: the operation gives what it
promises, or fails within the families, exactly when each part that it takes is of a kind that it
can take. Where one is not, it fails outside the families, or lists what is no key.
-/

namespace EnvelopeStore.Proofs
open Service

/-! ### How an operation ends -/

/-- A failure that belongs to a family. -/
def InFamily (failure : Failure) : Prop :=
  ∃ family, failure.family? = some family ∧ family.isPartOf .store = true

lemma inFamily_storage (fault : StorageFault) : InFamily (.storage fault) :=
  ⟨.storage, rfl, isPartOf_parent rfl⟩

lemma inFamily_serialization (fault : EntryFault) : InFamily (.serialization fault) :=
  ⟨.serialization, rfl, isPartOf_parent rfl⟩

section

variable {α : Type}

/-- An entry that was found is a record in the current format. -/
def InFormat (found : Option Entry) : Prop := ∀ e ∈ found, ∃ r : Record, e = r.entry

def AllTexts (keys : List Value) : Prop := ∀ key ∈ keys, ∃ t, key = .text t

lemma inFormat_none : InFormat none := fun _ h => nomatch h

lemma allTexts_nil : AllTexts [] := fun _ h => nomatch h

lemma allTexts_append {keys more : List Value} :
    AllTexts (keys ++ more) ↔ AllTexts keys ∧ AllTexts more :=
  List.forall_mem_append

/-- A value as promised, or a failure within the families. -/
def KeepsPromise (promised : α → Prop) (r : Except Failure α) : Prop :=
  (∃ a, r = .ok a ∧ promised a) ∨ ∃ failure, r = .error failure ∧ InFamily failure

/-- A fault of a document or of a shape, which have no family, or a value other than promised. -/
def BreaksPromise (promised : α → Prop) (r : Except Failure α) : Prop :=
  (∃ fault, r = .error (.document fault)) ∨ (∃ fault, r = .error (.shape fault)) ∨
    ∃ a, r = .ok a ∧ ¬promised a

/-- What is promised is kept exactly for what is sound. -/
structure Decided (promised : α → Prop) (sound : Prop) (r : Except Failure α) : Prop where
  kept : KeepsPromise promised r ↔ sound
  broken : ¬sound → BreaksPromise promised r

variable {promised : α → Prop} {sound sound' : Prop} {r : Except Failure α}

lemma not_kept_of_broken (h : BreaksPromise promised r) : ¬KeepsPromise promised r := by
  rintro (⟨a, rfl, ha⟩ | ⟨failure, rfl, family, hfamily, -⟩)
  · obtain ⟨fault, hr⟩ | ⟨fault, hr⟩ | ⟨b, hb, hnot⟩ := h
    · exact nomatch hr
    · exact nomatch hr
    · exact hnot (Except.ok.inj hb ▸ ha)
  · obtain ⟨fault, hr⟩ | ⟨fault, hr⟩ | ⟨b, hb, -⟩ := h
    · rw [Except.error.inj hr] at hfamily
      exact nomatch hfamily
    · rw [Except.error.inj hr] at hfamily
      exact nomatch hfamily
    · exact nomatch hb

lemma decided_of_kept (hsound : sound) (h : KeepsPromise promised r) : Decided promised sound r :=
  ⟨iff_of_true h hsound, fun hnot => absurd hsound hnot⟩

lemma decided_of_broken (hsound : ¬sound) (h : BreaksPromise promised r) :
    Decided promised sound r :=
  ⟨iff_of_false (not_kept_of_broken h) hsound, fun _ => h⟩

lemma Decided.congr (h : Decided promised sound r) (hiff : sound' ↔ sound) :
    Decided promised sound' r :=
  ⟨h.kept.trans hiff.symm, fun hnot => h.broken (hiff.not.mp hnot)⟩

lemma Decided.map {β : Type} {f : α → β} {promised' : β → Prop} (h : Decided promised sound r)
    (hf : ∀ a, promised' (f a) ↔ promised a) : Decided promised' sound (r.map f) := by
  by_cases hsound : sound
  · refine decided_of_kept hsound ?_
    obtain ⟨a, rfl, ha⟩ | ⟨failure, rfl, hfailure⟩ := h.kept.mpr hsound
    · exact .inl ⟨f a, rfl, (hf a).mpr ha⟩
    · exact .inr ⟨failure, rfl, hfailure⟩
  · refine decided_of_broken hsound ?_
    obtain ⟨fault, rfl⟩ | ⟨fault, rfl⟩ | ⟨a, rfl, ha⟩ := h.broken hsound
    · exact .inl ⟨fault, rfl⟩
    · exact .inr (.inl ⟨fault, rfl⟩)
    · exact .inr (.inr ⟨f a, rfl, (hf a).not.mpr ha⟩)

end

/-! ### The parts of a reply -/

/-- The fields that a reply holds: those of the object that its body is read as, or none if that is
nothing that counts as given. -/
def HoldsFields (reply : Reply) (fields : Fields) : Prop :=
  ∃ answer, reply.value = .ok answer ∧
    (answer = .object fields ∨ answer.isGiven = false ∧ fields = [])

def fieldIn (fields : Fields) (name : Text) : Value := Value.ofOption (fields.get? name)

/-- What is given as a document is one, and is not nested too deep to be read. -/
def SoundDocument (document : Value) : Prop :=
  document.isGiven = true → (∃ read, documentIn? document = some read) ∧ Shallow document

/-- What is given as a record is an object, marked as deleted or with a sound document in it. -/
def SoundRecord (record : Value) : Prop :=
  record.isGiven = true → ∃ fields, record = .object fields ∧
    ((fieldIn fields "isDeleted").isGiven = true ∨ SoundDocument (fieldIn fields "value"))

/-- A row that has a text as its key, or of which it can be told that it has none. -/
inductive SoundRow : Value → Prop
  | object {fields : Fields} (h : ∀ key, fields.get? "key" = some key → ∃ t, key = .text t) :
    SoundRow (.object fields)
  | text {t : Text} (h : Text.hasPart "key" t = false) : SoundRow (.text t)
  | list {items : List Value} (h : ∀ item ∈ items, item ≠ .text "key") : SoundRow (.list items)

def SoundRows (rows : Value) : Prop :=
  rows.isGiven = true → ∃ items, rows.items = .ok items ∧ ∀ row ∈ items, SoundRow row

section

variable {reply : Reply} {answer : Value} {fields : Fields}

lemma orEmpty_eq_object_iff :
    orEmpty answer = .object fields ↔
      answer = .object fields ∨ answer.isGiven = false ∧ fields = [] := by
  unfold orEmpty
  split
  · next hgiven => simp [hgiven]
  · next hgiven =>
    rw [Bool.not_eq_true] at hgiven
    constructor
    · rintro ⟨rfl⟩
      exact .inr ⟨hgiven, rfl⟩
    · rintro (rfl | ⟨-, rfl⟩)
      · cases fields with
        | nil => rfl
        | cons => exact nomatch hgiven
      · rfl

lemma holds_iff (h : reply.value = .ok answer) :
    HoldsFields reply fields ↔ orEmpty answer = .object fields := by
  rw [orEmpty_eq_object_iff]
  constructor
  · rintro ⟨other, hother, hfields⟩
    rwa [Except.ok.inj (h.symm.trans hother)]
  · exact fun hfields => ⟨answer, h, hfields⟩

lemma fieldOf_object (name : Text) :
    fieldOf name (.object fields) = .ok (fieldIn fields name) := rfl

lemma fieldOf_other {v : Value} (h : ∀ fields, v ≠ .object fields) (name : Text) :
    ∃ fault, fieldOf name v = .error fault := by
  unfold fieldOf
  split
  · exact absurd rfl (h _)
  · exact ⟨_, rfl⟩

end

/-! ### What is taken from them -/

section

variable {α : Type} {promised : α → Prop}

lemma decided_accept (call : ServiceCall) (reply : Reply) {take : Value → Except Failure α}
    {sound : Fields → Prop}
    (hobject : ∀ answer fields, orEmpty answer = .object fields →
      Decided promised (sound fields) (take answer))
    (hother : ∀ answer, (∀ fields, orEmpty answer ≠ .object fields) →
      ∃ fault, take answer = .error (.shape fault)) :
    Decided promised (reply.isOk = true → ∃ fields, HoldsFields reply fields ∧ sound fields)
      ((accept call reply).bind take) := by
  unfold accept
  cases hok : reply.isOk with
  | false => exact decided_of_kept nofun (.inr ⟨_, rfl, inFamily_storage _⟩)
  | true =>
    simp only [if_true, forall_const]
    cases hvalue : reply.value with
    | error fault =>
      refine decided_of_broken ?_ (.inl ⟨fault, rfl⟩)
      rintro ⟨fields, ⟨answer, hanswer, -⟩, -⟩
      exact nomatch hvalue.symm.trans hanswer
    | ok answer =>
      simp only [holds_iff hvalue]
      change Decided promised _ (take answer)
      by_cases hfields : ∃ fields, orEmpty answer = .object fields
      · obtain ⟨fields, hfields⟩ := hfields
        refine (hobject answer fields hfields).congr ?_
        simp [hfields]
      · obtain ⟨fault, hfault⟩ := hother answer (not_exists.mp hfields)
        refine decided_of_broken ?_ (.inr (.inl ⟨fault, hfault⟩))
        rintro ⟨fields, hanswer, -⟩
        exact hfields ⟨fields, hanswer⟩

end

lemma decided_receipt (call : ServiceCall) (reply : Reply) :
    Decided (fun _ => True) (reply.isOk = true → ∃ fields, HoldsFields reply fields)
      ((accept call reply).bind fun answer => shaped (receiptOf answer)) := by
  have hobject : ∀ answer fields, orEmpty answer = .object fields →
      Decided (fun _ => True) True (shaped (receiptOf answer)) := by
    intro answer fields hfields
    refine decided_of_kept trivial (.inl ⟨⟨fieldIn fields "txHash"⟩, ?_, trivial⟩)
    rw [receiptOf, hfields, fieldOf_object]
    rfl
  have hother : ∀ answer, (∀ fields, orEmpty answer ≠ .object fields) →
      ∃ fault, shaped (receiptOf answer) = .error (.shape fault) := by
    intro answer hother
    obtain ⟨fault, hfault⟩ := fieldOf_other hother "txHash"
    rw [receiptOf, hfault]
    exact ⟨fault, rfl⟩
  exact (decided_accept call reply hobject hother).congr (by simp)

lemma decided_ofJson (document : Value) :
    Decided InFormat ((∃ read, documentIn? document = some read) ∧ Shallow document)
      ((Entry.ofJson document).map some) := by
  cases hread : documentIn? document with
  | none =>
    refine decided_of_broken (by simp) (.inr (.inl ?_))
    cases document with
    | text | bytes | buffer => simp [documentIn?] at hread
    | _ => exact ⟨_, rfl⟩
  | some read =>
    have hofJson : Entry.ofJson document = Entry.ofDocument read := by
      cases document <;> simp only [documentIn?, Option.some.injEq, reduceCtorEq] at hread <;>
        subst hread <;> rfl
    rw [hofJson]
    unfold Entry.ofDocument
    split
    · next container =>
      refine decided_of_broken ?_ (.inl ⟨_, rfl⟩)
      rintro ⟨-, hshallow⟩
      exact hshallow container hread
    · next fault hdeep =>
      refine decided_of_kept ⟨⟨_, rfl⟩, ?_⟩ (.inr ⟨_, rfl, inFamily_serialization _⟩)
      intro container h
      rw [hread] at h
      exact hdeep container (Except.error.inj (Option.some.inj h))
    · next v =>
      have hshallow : Shallow document := by
        intro container h
        rw [hread] at h
        simp at h
      refine decided_of_kept ⟨⟨_, rfl⟩, hshallow⟩ ?_
      split
      · exact .inr ⟨_, rfl, inFamily_serialization _⟩
      next e hvalue =>
      refine .inl ⟨some e, rfl, ?_⟩
      rintro _ ⟨rfl⟩
      obtain ⟨fields, -, hfields⟩ := ofValue_cases hvalue
      obtain ⟨-, r, hr⟩ := ofFields_cases hfields
      exact ⟨r, hr⟩

def takeDocument (answer : Value) : Except Failure (Option Entry) :=
  (shaped (documentOf answer)).bind fun document =>
    match document with
    | none => .ok none
    | some document => (Entry.ofJson document).map some

section

variable {answer record : Value} {parts : Fields}

lemma takeDocument_none (h : documentOf answer = .ok none) : takeDocument answer = .ok none := by
  rw [takeDocument, h]
  rfl

lemma takeDocument_some {document : Value} (h : documentOf answer = .ok (some document)) :
    takeDocument answer = (Entry.ofJson document).map some := by
  rw [takeDocument, h]
  rfl

lemma takeDocument_error {fault : ShapeFault} (h : documentOf answer = .error fault) :
    takeDocument answer = .error (.shape fault) := by
  rw [takeDocument, h]
  rfl

lemma documentOf_absent (hdata : fieldOf "data" (orEmpty answer) = .ok record)
    (hgiven : record.isGiven = false) : documentOf answer = .ok none := by
  rw [documentOf, hdata]
  change (if !record.isGiven then _ else _) = _
  rw [hgiven]
  rfl

lemma documentOf_other (hdata : fieldOf "data" (orEmpty answer) = .ok record)
    (hgiven : record.isGiven = true) (hother : ∀ parts, record ≠ .object parts) :
    ∃ fault, documentOf answer = .error fault := by
  obtain ⟨fault, hfault⟩ := fieldOf_other hother "isDeleted"
  refine ⟨fault, ?_⟩
  rw [documentOf, hdata]
  change (if !record.isGiven then _ else _) = _
  rw [hgiven, hfault]
  rfl

lemma documentOf_parts (hdata : fieldOf "data" (orEmpty answer) = .ok (.object parts))
    (hgiven : (Value.object parts).isGiven = true) :
    documentOf answer = .ok (if (fieldIn parts "isDeleted").isGiven then none
      else if (fieldIn parts "value").isGiven then some (fieldIn parts "value") else none) := by
  rw [documentOf, hdata]
  simp only [hgiven, fieldOf_object, bind, Except.bind, Bool.not_true, Bool.false_eq_true, if_false]
  cases (fieldIn parts "isDeleted").isGiven with
  | true => rfl
  | false => rfl

lemma decided_parts (hdata : fieldOf "data" (orEmpty answer) = .ok (.object parts))
    (hgiven : (Value.object parts).isGiven = true) :
    Decided InFormat (SoundRecord (.object parts)) (takeDocument answer) := by
  have hdocument := documentOf_parts hdata hgiven
  cases hdeleted : (fieldIn parts "isDeleted").isGiven with
  | true =>
    rw [if_pos hdeleted] at hdocument
    have hsound : SoundRecord (.object parts) := fun _ => ⟨parts, rfl, .inl hdeleted⟩
    exact decided_of_kept hsound (.inl ⟨none, takeDocument_none hdocument, inFormat_none⟩)
  | false =>
  rw [if_neg (by simp [hdeleted])] at hdocument
  have hiff : SoundRecord (.object parts) ↔ SoundDocument (fieldIn parts "value") := by
    simp [SoundRecord, hgiven, hdeleted]
  refine Decided.congr ?_ hiff
  cases hvalue : (fieldIn parts "value").isGiven with
  | true =>
    rw [if_pos hvalue] at hdocument
    rw [takeDocument_some hdocument]
    exact (decided_ofJson _).congr (by simp [SoundDocument, hvalue])
  | false =>
    rw [if_neg (by simp [hvalue])] at hdocument
    have hsound : SoundDocument (fieldIn parts "value") := by simp [SoundDocument, hvalue]
    exact decided_of_kept hsound (.inl ⟨none, takeDocument_none hdocument, inFormat_none⟩)

lemma decided_record {fields : Fields} (h : orEmpty answer = .object fields) :
    Decided InFormat (SoundRecord (fieldIn fields "data")) (takeDocument answer) := by
  have hdata : fieldOf "data" (orEmpty answer) = .ok (fieldIn fields "data") := by
    rw [h, fieldOf_object]
  generalize fieldIn fields "data" = record at hdata ⊢
  cases hgiven : record.isGiven with
  | false =>
    have hsound : SoundRecord record := by simp [SoundRecord, hgiven]
    have hnone := takeDocument_none (documentOf_absent hdata hgiven)
    exact decided_of_kept hsound (.inl ⟨none, hnone, inFormat_none⟩)
  | true =>
  by_cases hrecord : ∃ parts, record = .object parts
  · obtain ⟨parts, rfl⟩ := hrecord
    exact decided_parts hdata hgiven
  · obtain ⟨fault, hfault⟩ := documentOf_other hdata hgiven (not_exists.mp hrecord)
    refine decided_of_broken ?_ (.inr (.inl ⟨fault, takeDocument_error hfault⟩))
    intro hsound
    obtain ⟨parts, hparts, -⟩ := hsound hgiven
    exact hrecord ⟨parts, hparts⟩

end

/-! ### Listings -/

/-- A row is told apart by its kind and, if it is an object, by its key. -/
lemma keyOf?_cases (row : Value) :
    (SoundRow row ∧ ∃ found, keyOf? row = .ok found ∧ AllTexts found.toList) ∨
      ¬SoundRow row ∧ ((∃ fault, keyOf? row = .error fault) ∨
        ∃ key, keyOf? row = .ok (some key) ∧ ∀ t, key ≠ .text t) := by
  cases row with
  | object fields =>
    by_cases htext : ∀ key, Fields.get? fields "key" = some key → ∃ t, key = .text t
    · refine .inl ⟨.object htext, Fields.get? fields "key", rfl, fun key hkey => ?_⟩
      exact htext key (Option.mem_toList.mp hkey)
    · obtain ⟨key, hkey, hother⟩ : ∃ key, Fields.get? fields "key" = some key ∧
          ¬∃ t, key = .text t := by simpa using htext
      refine .inr ⟨?_, .inr ⟨key, congrArg _ hkey, not_exists.mp hother⟩⟩
      rintro ⟨h⟩
      exact htext h
  | text t =>
    rw [keyOf?]
    cases hpart : Text.hasPart "key" t with
    | false => exact .inl ⟨.text hpart, none, rfl, allTexts_nil⟩
    | true =>
      refine .inr ⟨fun hsound => ?_, .inl ⟨_, rfl⟩⟩
      cases hsound with
      | text h => simp [hpart] at h
  | list items =>
    rw [keyOf?]
    cases hany : items.any (·.equalsText "key") with
    | false =>
      refine .inl ⟨.list fun item hitem hkey => ?_, none, rfl, allTexts_nil⟩
      exact List.any_eq_false.mp hany item hitem (equalsText_iff.mpr hkey)
    | true =>
      obtain ⟨item, hitem, hkey⟩ := List.any_eq_true.mp hany
      refine .inr ⟨fun hsound => ?_, .inl ⟨_, rfl⟩⟩
      cases hsound with
      | list h => exact h item hitem (equalsText_iff.mp hkey)
  | _ =>
    refine .inr ⟨fun hsound => ?_, .inl ⟨_, rfl⟩⟩
    cases hsound

lemma keysOf_cons_ok {row : Value} {rest : List Value} {found : Option Value}
    (h : keyOf? row = .ok found) :
    keysOf (row :: rest) = (keysOf rest).map (found.toList ++ ·) := by
  rw [keysOf, h]
  cases found <;> cases keysOf rest <;> rfl

lemma keysOf_cons_error {row : Value} {rest : List Value} {fault : ShapeFault}
    (h : keyOf? row = .error fault) : keysOf (row :: rest) = .error fault := by
  rw [keysOf, h]

lemma shaped_map {α β : Type} (f : α → β) (r : Except ShapeFault α) :
    shaped (r.map f) = (shaped r).map f := by
  cases r <;> rfl

lemma decided_keysOf (rows : List Value) :
    Decided AllTexts (∀ row ∈ rows, SoundRow row)
      (shaped (keysOf rows)) := by
  induction rows with
  | nil => exact decided_of_kept (by simp) (.inl ⟨[], rfl, allTexts_nil⟩)
  | cons row rest ih =>
    rw [List.forall_mem_cons]
    obtain ⟨hrow, found, hfound, htext⟩ | ⟨hrow, hbroken⟩ := keyOf?_cases row
    · rw [keysOf_cons_ok hfound, shaped_map]
      refine (ih.map fun keys => ?_).congr (and_iff_right hrow)
      rw [allTexts_append, and_iff_right htext]
    · refine decided_of_broken (fun h => hrow h.1) (.inr ?_)
      obtain ⟨fault, hfault⟩ | ⟨key, hkey, hother⟩ := hbroken
      · rw [keysOf_cons_error hfault]
        exact .inl ⟨fault, rfl⟩
      · rw [keysOf_cons_ok hkey]
        cases keysOf rest with
        | error fault => exact .inl ⟨fault, rfl⟩
        | ok keys =>
          refine .inr ⟨key :: keys, rfl, fun h => ?_⟩
          obtain ⟨t, ht⟩ := h key List.mem_cons_self
          exact hother t ht

def takeListing (answer : Value) : Except Failure (List Value) := shaped (listingOf answer)

lemma decided_rows {answer : Value} {fields : Fields} (h : orEmpty answer = .object fields) :
    Decided AllTexts (SoundRows (fieldIn fields "data"))
      (takeListing answer) := by
  have hlisting : listingOf answer = do
      if (fieldIn fields "data").isGiven then keysOf (← (fieldIn fields "data").items)
      else return [] := by
    rw [listingOf, h, fieldOf_object]
    rfl
  rw [takeListing, hlisting]
  generalize fieldIn fields "data" = rows
  cases hgiven : rows.isGiven with
  | false => exact decided_of_kept (by simp [SoundRows, hgiven]) (.inl ⟨[], rfl, allTexts_nil⟩)
  | true =>
    cases hitems : rows.items with
    | error fault =>
      refine decided_of_broken ?_ (.inr (.inl ⟨fault, rfl⟩))
      intro hsound
      obtain ⟨items, hok, -⟩ := hsound hgiven
      simp [hitems] at hok
    | ok items =>
      refine (decided_keysOf items).congr ?_
      simp [SoundRows, hgiven, hitems]

/-! ### The operations -/

section

variable {σ : Type} {transport : Transport σ} {account : Account} {conn : Connection σ}
  {reply : Reply} {key start document : Text}

/-- A service that gives this reply to a request. -/
def RepliesTo (transport : Transport σ) (conn : Connection σ) (request : Request) (reply : Reply) :
    Prop :=
  ((transport request).result conn.peer).1 = .ok reply

lemma result_ofExcept_bind {α β : Type} (r : Except Failure α) (f : α → Except Failure β) (s : σ) :
    (Action.ofExcept r >>= fun a => Action.ofExcept (f a)).result s = (r.bind f, s) := by
  cases r with
  | error failure => rfl
  | ok a =>
    rw [Action.ofExcept_ok, result_bind_of_ok (result_pure _ _), result_ofExcept]
    rfl

lemma send_of_reply {call : ServiceCall} {params : Fields}
    (h : RepliesTo transport conn (requestFor account call params) reply) :
    ∃ conn', (send transport account call (parameters account params)).result conn =
      (.ok reply, conn') := by
  obtain ⟨conn', hsend, -⟩ := send_result transport account call params conn
  have hreply : ((transport (requestFor account call params)).result conn.peer).1 = .ok reply := h
  rw [hreply] at hsend
  exact ⟨conn', hsend⟩

lemma set_of_reply {e : Entry} (hjson : e.toJson = .ok document)
    (h : RepliesTo transport conn (setRequest account key document) reply) :
    (((storage transport account).set (.text key) e).result conn).1 =
      (accept .set reply).bind fun answer => shaped (receiptOf answer) := by
  obtain ⟨conn', hsend⟩ := send_of_reply h
  simp only [storage, hjson, Action.ofExcept_ok]
  rw [result_bind_of_ok (result_pure _ _), result_bind_of_ok hsend, result_ofExcept_bind]

lemma delete_of_reply (h : RepliesTo transport conn (deleteRequest account key) reply) :
    (((storage transport account).delete (.text key)).result conn).1 =
      (accept .delete reply).bind fun answer => shaped (receiptOf answer) := by
  obtain ⟨conn', hsend⟩ := send_of_reply h
  simp only [storage]
  rw [result_bind_of_ok hsend, result_ofExcept_bind]

lemma list_of_reply (h : RepliesTo transport conn (queryRequest account start) reply) :
    (((storage transport account).list (.text start)).result conn).1 =
      (accept .query reply).bind takeListing := by
  obtain ⟨conn', hsend⟩ := send_of_reply h
  simp only [storage]
  rw [result_bind_of_ok hsend]
  exact congrArg Prod.fst (result_ofExcept_bind _ _ _)

lemma get_of_reply (h : RepliesTo transport conn (getRequest account key) reply) :
    (((storage transport account).get (.text key)).result conn).1 =
      if reply.status = 404 then .ok none else (accept .get reply).bind takeDocument := by
  obtain ⟨conn', hsend⟩ := send_of_reply h
  simp only [storage]
  rw [result_bind_of_ok hsend]
  by_cases hmissing : reply.status = 404
  · rw [if_pos hmissing, if_pos hmissing]
    rfl
  rw [if_neg hmissing, if_neg hmissing]
  cases accept .get reply with
  | error failure => rfl
  | ok answer =>
    rw [Action.ofExcept_ok, result_bind_of_ok (result_pure _ _)]
    change _ = takeDocument answer
    rw [takeDocument]
    cases shaped (documentOf answer) with
    | error failure => rfl
    | ok found =>
      rw [Action.ofExcept_ok, result_bind_of_ok (result_pure _ _)]
      cases found with
      | none => rfl
      | some document =>
        dsimp only
        rw [result_map, result_ofExcept]
        rfl

lemma decided_get (reply : Reply) :
    Decided InFormat
      (reply.isOk = true → ∃ fields, HoldsFields reply fields ∧ SoundRecord (fieldIn fields "data"))
      (if reply.status = 404 then .ok none else (accept .get reply).bind takeDocument) := by
  split
  · next hmissing =>
    refine decided_of_kept (fun hok => ?_) (.inl ⟨none, rfl, inFormat_none⟩)
    rw [Reply.isOk, decide_eq_true_eq] at hok
    omega
  · refine decided_accept .get reply (fun _ _ => decided_record) fun answer hother => ?_
    obtain ⟨fault, hfault⟩ := fieldOf_other hother "data"
    refine ⟨fault, ?_⟩
    rw [takeDocument, documentOf, hfault]
    rfl

lemma decided_list (reply : Reply) :
    Decided AllTexts
      (reply.isOk = true → ∃ fields, HoldsFields reply fields ∧ SoundRows (fieldIn fields "data"))
      ((accept .query reply).bind takeListing) := by
  refine decided_accept .query reply (fun _ _ => decided_rows) fun answer hother => ?_
  obtain ⟨fault, hfault⟩ := fieldOf_other hother "data"
  refine ⟨fault, ?_⟩
  rw [takeListing, listingOf, hfault]
  rfl

end

/-- Whatever a service replies, with any status and any body, each operation of the store keeps its
promise exactly when the reply refuses the request or is sound for the operation; and it breaks it,
if it does, by a failure without a family or by a key that is no text. -/
theorem promises_kept_iff_reply_sound {σ : Type} (transport : Transport σ) (account : Account)
    (conn : Connection σ) (reply : Reply) (key : Text) :
    let service := storage transport account
    (∀ e document, e.toJson = .ok document →
      RepliesTo transport conn (setRequest account key document) reply →
      Decided (fun _ => True) (reply.isOk = true → ∃ fields, HoldsFields reply fields)
        ((service.set (.text key) e).result conn).1) ∧
    (RepliesTo transport conn (deleteRequest account key) reply →
      Decided (fun _ => True) (reply.isOk = true → ∃ fields, HoldsFields reply fields)
        ((service.delete (.text key)).result conn).1) ∧
    (RepliesTo transport conn (getRequest account key) reply →
      Decided InFormat
        (reply.isOk = true → ∃ fields, HoldsFields reply fields ∧
          SoundRecord (fieldIn fields "data"))
        ((service.get (.text key)).result conn).1) ∧
    (RepliesTo transport conn (queryRequest account key) reply →
      Decided AllTexts
        (reply.isOk = true → ∃ fields, HoldsFields reply fields ∧
          SoundRows (fieldIn fields "data"))
        ((service.list (.text key)).result conn).1) := by
  refine ⟨fun e document hjson h => ?_, fun h => ?_, fun h => ?_, fun h => ?_⟩
  · rw [set_of_reply hjson h]
    exact decided_receipt .set reply
  · rw [delete_of_reply h]
    exact decided_receipt .delete reply
  · rw [get_of_reply h]
    exact decided_get reply
  · rw [list_of_reply h]
    exact decided_list reply

/-- A page in place of a document breaks every promise if the status says that all went well, and
none if it says that the request was refused. -/
theorem page_with_status_ok_breaks_promises :
    let account : Account := ⟨"https://kv.test", .text "alice.near", .text defaultContract, .null⟩
    let e := Entry.current "d3JhcHBlZA==" "Y2lwaGVy" "k1"
    let conn : Connection Unit := .idle ()
    let service := fun status => storage (fun _ => pure ⟨status, "<html>"⟩) account
    let set := fun status =>
      KeepsPromise (fun _ => True) (((service status).set (.text "k") e).result conn).1
    let delete := fun status =>
      KeepsPromise (fun _ => True) (((service status).delete (.text "k")).result conn).1
    let get := fun status =>
      KeepsPromise InFormat (((service status).get (.text "k")).result conn).1
    let list := fun status =>
      KeepsPromise AllTexts (((service status).list (.text "k")).result conn).1
    (set 502 ∧ delete 502 ∧ get 502 ∧ list 502) ∧
      ¬set 200 ∧ ¬delete 200 ∧ ¬get 200 ∧ ¬list 200 := by
  intro account e conn service set delete get list
  have hall := fun status =>
    promises_kept_iff_reply_sound (fun _ => pure ⟨status, "<html>"⟩) account conn
      ⟨status, "<html>"⟩ "k"
  have hrefused : (⟨502, "<html>"⟩ : Reply).isOk ≠ true := by decide
  have hunread : ∀ fields, ¬HoldsFields ⟨200, "<html>"⟩ fields := by
    rintro fields ⟨answer, hanswer, -⟩
    exact nomatch hanswer
  obtain ⟨hset, hdelete, hget, hlist⟩ := hall 502
  obtain ⟨hset', hdelete', hget', hlist'⟩ := hall 200
  refine ⟨⟨?_, ?_, ?_, ?_⟩, fun h => ?_, fun h => ?_, fun h => ?_, fun h => ?_⟩
  · exact (hset e _ rfl rfl).kept.mpr fun hok => absurd hok hrefused
  · exact (hdelete rfl).kept.mpr fun hok => absurd hok hrefused
  · exact (hget rfl).kept.mpr fun hok => absurd hok hrefused
  · exact (hlist rfl).kept.mpr fun hok => absurd hok hrefused
  · obtain ⟨fields, hfields⟩ := (hset' e _ rfl rfl).kept.mp h rfl
    exact hunread fields hfields
  · obtain ⟨fields, hfields⟩ := (hdelete' rfl).kept.mp h rfl
    exact hunread fields hfields
  · obtain ⟨fields, hfields, -⟩ := (hget' rfl).kept.mp h rfl
    exact hunread fields hfields
  · obtain ⟨fields, hfields, -⟩ := (hlist' rfl).kept.mp h rfl
    exact hunread fields hfields

/-- A deletion that is answered with a page and a status of success neither gives a receipt nor
fails within the families. -/
theorem delete_fails_outside_families :
    let account : Account := ⟨"https://kv.test", .text "alice.near", .text defaultContract, .null⟩
    let deletion := ((storage (fun _ => pure ⟨200, "<html>"⟩) account).delete (.text "k")).result
      (Connection.idle ())
    ¬((∃ receipt, deletion.1 = .ok receipt) ∨
      ∃ failure, deletion.1 = .error failure ∧ InFamily failure) := by
  intro account deletion
  obtain ⟨fault, hdeletion⟩ : ∃ fault, deletion.1 = .error (.document fault) := ⟨_, rfl⟩
  rw [hdeletion]
  rintro (⟨receipt, h⟩ | ⟨failure, h, family, hfamily, -⟩)
  · exact nomatch h
  · rw [← Except.error.inj h] at hfamily
    exact nomatch hfamily

end EnvelopeStore.Proofs
