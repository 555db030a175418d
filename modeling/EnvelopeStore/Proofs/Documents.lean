import EnvelopeStore.Json.Source
import EnvelopeStore.Proofs.Reading

/-!
# Documents

Reading what was written gives the value back, but for two things: pairs of surrogates are joined,
and of the fields of one name only one is left.
-/

namespace EnvelopeStore.Proofs
open Json

/-! ### What comes back -/

mutual

/-- Whether a document tells a value: there are no bytes in it, and its numbers are integers with no
more digits than are read. -/
def isTold : Value → Bool
  | .float _ | .bytes _ | .buffer _ => false
  | .int n => digitCount n.natAbs ≤ Text.maxDigits
  | .list items => areTold items
  | .object fields => areToldFields fields
  | _ => true

def areTold : List Value → Bool
  | [] => true
  | v :: rest => isTold v && areTold rest

def areToldFields : List (Text × Value) → Bool
  | [] => true
  | (_, v) :: rest => isTold v && areToldFields rest

end

mutual

def height : Value → Nat
  | .list items => heightOfItems items + 1
  | .object fields => heightOfFields fields + 1
  | _ => 0

def heightOfItems : List Value → Nat
  | [] => 0
  | v :: rest => max (height v) (heightOfItems rest)

def heightOfFields : List (Text × Value) → Nat
  | [] => 0
  | (_, v) :: rest => max (height v) (heightOfFields rest)

end

mutual

/-- What comes back of a value. -/
def reread : Value → Value
  | .text t => .text (Text.joinPairs t)
  | .list items => .list (rereadItems items)
  | .object fields => .object (Fields.ofList (rereadFields fields))
  | v => v

def rereadItems : List Value → List Value
  | [] => []
  | v :: rest => reread v :: rereadItems rest

def rereadFields : List (Text × Value) → List (Text × Value)
  | [] => []
  | (name, v) :: rest => (Text.joinPairs name, reread v) :: rereadFields rest

end

mutual

/-- A value that comes back as it is: it has no pairs of surrogates to be joined, and no object has
two fields of one name. -/
def Settled : Value → Prop
  | .text t => Text.joinPairs t = t
  | .list items => SettledItems items
  | .object fields => (fields.map Prod.fst).Nodup ∧ SettledFields fields
  | _ => True

def SettledItems : List Value → Prop
  | [] => True
  | v :: rest => Settled v ∧ SettledItems rest

def SettledFields : List (Text × Value) → Prop
  | [] => True
  | (name, v) :: rest => Text.joinPairs name = name ∧ Settled v ∧ SettledFields rest

end

lemma put_of_notMem {fields : Fields} {name : Text} (h : name ∉ fields.map Prod.fst) (v : Value) :
    Fields.put fields name v = fields ++ [(name, v)] := by
  induction fields with
  | nil => rfl
  | cons field rest ih =>
    rw [List.map_cons, List.mem_cons, not_or] at h
    rw [Fields.put, if_neg (Ne.symm h.1), ih h.2, List.cons_append]

lemma ofList_of_nodup {pairs : Fields} (h : (pairs.map Prod.fst).Nodup) :
    Fields.ofList pairs = pairs := by
  have hfold : ∀ (pairs done : Fields), ((done ++ pairs).map Prod.fst).Nodup →
      pairs.foldl (fun fields pair => fields.put pair.1 pair.2) done = done ++ pairs := by
    intro pairs
    induction pairs with
    | nil => simp
    | cons pair rest ih =>
      intro done hnodup
      obtain ⟨name, v⟩ := pair
      have hnew : name ∉ done.map Prod.fst := by
        rw [List.map_append, List.nodup_append] at hnodup
        exact fun hmem => hnodup.2.2 _ hmem _ (by simp) rfl
      rw [List.foldl_cons, put_of_notMem hnew v, ih _ (by simpa using hnodup), List.append_assoc,
        List.singleton_append]
  exact hfold pairs [] h

mutual

lemma reread_settled (v : Value) (h : Settled v) : reread v = v := by
  match v with
  | .null | .bool _ | .int _ | .float _ | .bytes _ | .buffer _ => rfl
  | .text t => rw [reread, h]
  | .list items => rw [reread, rereadItems_settled items h]
  | .object fields => rw [reread, rereadFields_settled fields h.2, ofList_of_nodup h.1]

lemma rereadItems_settled (items : List Value) (h : SettledItems items) :
    rereadItems items = items := by
  match items with
  | [] => rfl
  | v :: rest => rw [rereadItems, reread_settled v h.1, rereadItems_settled rest h.2]

lemma rereadFields_settled (fields : List (Text × Value)) (h : SettledFields fields) :
    rereadFields fields = fields := by
  match fields with
  | [] => rfl
  | (name, v) :: rest =>
    rw [rereadFields, h.1, reread_settled v h.2.1, rereadFields_settled rest h.2.2]

end

/-! ### Between the parts -/

lemma skipBlanks_cons {c : CodePoint} (hc : isBlank c = false) (t : Text) :
    skipBlanks (c :: t) = c :: t := by
  rw [skipBlanks, List.dropWhile_cons_of_neg (by simp [hc])]

lemma skipBlanks_blank {c : CodePoint} (hc : isBlank c = true) (t : Text) :
    skipBlanks (c :: t) = skipBlanks t := by
  rw [skipBlanks, List.dropWhile_cons_of_pos hc]
  rfl

/-- A document starts with an ASCII character that is neither a blank nor the end of a list. -/
def Opens (t : Text) : Prop :=
  ∃ c u, t = c :: u ∧ isBlank c = false ∧ c ≠ CodePoint.ofChar ']' ∧ c.val < 0x80

lemma opens_append {t : Text} (h : Opens t) (u : Text) : Opens (t ++ u) := by
  obtain ⟨c, v, rfl, hc⟩ := h
  exact ⟨c, v ++ u, rfl, hc⟩

lemma skipBlanks_opens {t : Text} (h : Opens t) : skipBlanks t = t := by
  obtain ⟨c, u, rfl, hblank, -⟩ := h
  exact skipBlanks_cons hblank u

lemma opens_ofInt (n : Int) : Opens (Text.ofInt n) := by
  cases n with
  | negSucc n => exact ⟨_, _, rfl, by decide, by decide, by decide⟩
  | ofNat n =>
    obtain ⟨c, t, ht, hdigit⟩ := ofNat_eq_cons n
    have hvalue := hdigit
    simp only [CodePoint.isAsciiDigit, Bool.and_eq_true, decide_eq_true_eq] at hvalue
    refine ⟨c, t, ht, ?_, ?_, by omega⟩
    · simp only [isBlank, Bool.or_eq_false_iff, beq_eq_false_iff_ne]
      omega
    · rintro rfl
      exact absurd hdigit (by decide)

lemma opens_write {v : Value} (h : isTold v = true) : Opens (write v) := by
  cases v with
  | null => exact ⟨_, _, rfl, by decide, by decide, by decide⟩
  | bool b => cases b <;> exact ⟨_, _, rfl, by decide, by decide, by decide⟩
  | int n =>
    rw [write]
    exact opens_ofInt n
  | text t => exact ⟨CodePoint.ofChar '"', _, rfl, by decide, by decide, by decide⟩
  | list items =>
    rw [write]
    exact ⟨CodePoint.ofChar '[', _, rfl, by decide, by decide, by decide⟩
  | object fields =>
    rw [write]
    exact ⟨CodePoint.ofChar '\x7b', _, rfl, by decide, by decide, by decide⟩
  | float | bytes | buffer => simp [isTold] at h

lemma join_singleton (sep t : Text) : Text.join sep [t] = t := by
  rw [Text.join, List.intercalate_singleton]

lemma join_cons_cons (sep t u : Text) (rest : List Text) :
    Text.join sep (t :: u :: rest) = t ++ (sep ++ Text.join sep (u :: rest)) := by
  rw [Text.join, List.intercalate_cons_cons, List.append_assoc, ← Text.join]

lemma printable_ofInt (n : Int) : Printable (Text.ofInt n) := by
  cases n with
  | ofNat n => exact printable_ofNat n
  | negSucc n => exact printable_cons (by decide) (printable_ofNat (n + 1))

lemma printable_writeText (t : Text) : Printable (writeText t) := by
  refine printable_append (printable_append (by decide) ?_) (by decide)
  intro c hc
  obtain ⟨d, -, hd⟩ := List.mem_flatMap.mp hc
  exact printable_escapeChar d c hd

lemma printable_join {parts : List Text} (h : ∀ part ∈ parts, Printable part) :
    Printable (Text.join ", " parts) := by
  induction parts with
  | nil => exact fun _ hc => nomatch hc
  | cons t rest ih =>
    cases rest with
    | nil =>
      rw [join_singleton]
      exact h t List.mem_cons_self
    | cons u rest =>
      rw [join_cons_cons]
      exact printable_append (h t List.mem_cons_self) <| printable_append (by decide) <|
        ih fun part hpart => h part (List.mem_cons_of_mem t hpart)

mutual

lemma printable_write (v : Value) (h : isTold v = true) : Printable (write v) := by
  match v with
  | .null => exact (by decide : Printable "null")
  | .bool true => exact (by decide : Printable "true")
  | .bool false => exact (by decide : Printable "false")
  | .int n =>
    rw [write]
    exact printable_ofInt n
  | .text t =>
    rw [write]
    exact printable_writeText t
  | .list items =>
    rw [isTold] at h
    rw [write]
    refine printable_append (printable_append (by decide) (printable_join ?_)) (by decide)
    exact printable_writeItems items h
  | .object fields =>
    rw [isTold] at h
    rw [write]
    refine printable_append (printable_append (by decide) (printable_join ?_)) (by decide)
    exact printable_writeFields fields h

lemma printable_writeItems (items : List Value) (h : areTold items = true) :
    ∀ part ∈ writeItems items, Printable part := by
  match items with
  | [] => exact fun _ hpart => nomatch hpart
  | v :: rest =>
    rw [areTold, Bool.and_eq_true] at h
    rw [writeItems, List.forall_mem_cons]
    exact ⟨printable_write v h.1, printable_writeItems rest h.2⟩

lemma printable_writeFields (fields : List (Text × Value)) (h : areToldFields fields = true) :
    ∀ part ∈ writeFields fields, Printable part := by
  match fields with
  | [] => exact fun _ hpart => nomatch hpart
  | (name, v) :: rest =>
    rw [areToldFields, Bool.and_eq_true] at h
    rw [writeFields, List.forall_mem_cons]
    refine ⟨?_, printable_writeFields rest h.2⟩
    exact printable_append (printable_append (printable_writeText name) (by decide))
      (printable_write v h.1)

end

/-! ### One step of reading -/

section

variable {fuel room : Nat} {c : CodePoint} {t u rest : Text} {v : Value}

lemma readValue_scalar (hquote : c ≠ CodePoint.ofChar '"') (hlist : c ≠ CodePoint.ofChar '[')
    (hobject : c ≠ CodePoint.ofChar '\x7b') :
    readValue (fuel + 1) room (c :: t) = readScalar (c :: t) := by
  rw [readValue.eq_def]
  simp only [if_neg hquote, if_neg hlist, if_neg hobject]

lemma readValue_writeText (t rest : Text) :
    readValue (fuel + 1) room (writeText t ++ rest) = .ok (.text (Text.joinPairs t), rest) := by
  have hopen : writeText t ++ rest =
      CodePoint.ofChar '"' :: (t.flatMap escapeChar ++ CodePoint.ofChar '"' :: rest) := by
    rw [writeText, List.append_assoc, List.append_assoc]
    rfl
  rw [hopen, readValue.eq_def]
  simp only [if_true, readString_write]
  rfl

lemma readValue_ofInt {n : Int} (hn : digitCount n.natAbs ≤ Text.maxDigits) (hrest : Ends rest) :
    readValue (fuel + 1) room (Text.ofInt n ++ rest) = .ok (.int n, rest) := by
  have hread := readScalar_ofInt hn hrest
  obtain ⟨c, t, ht, hc⟩ : ∃ c t, Text.ofInt n = c :: t ∧
      (c.isAsciiDigit = true ∨ c = CodePoint.ofChar '-') := by
    cases n with
    | negSucc n => exact ⟨_, _, rfl, .inr rfl⟩
    | ofNat n =>
      obtain ⟨c, t, ht, hdigit⟩ := ofNat_eq_cons n
      exact ⟨c, t, ht, .inl hdigit⟩
  rw [ht, List.cons_append] at hread ⊢
  rw [readValue_scalar ?_ ?_ ?_, hread]
  all_goals
    rintro rfl
    obtain hdigit | hminus := hc
    · exact absurd hdigit (by decide)
    · exact absurd hminus (by decide)

lemma readValue_list (h : Opens t) :
    readValue (fuel + 1) (room + 1) (CodePoint.ofChar '[' :: t) = readItems fuel room [] t := by
  rw [readValue.eq_def]
  simp only [if_neg (show CodePoint.ofChar '[' ≠ CodePoint.ofChar '"' by decide), if_true,
    skipBlanks_opens h]
  obtain ⟨c, u, rfl, -, hc, -⟩ := h
  simp only [if_neg hc]

lemma readValue_object :
    readValue (fuel + 1) (room + 1) (CodePoint.ofChar '\x7b' :: CodePoint.ofChar '"' :: t) =
      readFields fuel room [] (CodePoint.ofChar '"' :: t) := by
  rw [readValue.eq_def]
  rfl

lemma readItems_last {read : List Value}
    (h : readValue fuel room t = .ok (v, CodePoint.ofChar ']' :: rest)) :
    readItems (fuel + 1) room read t = .ok (.list (v :: read).reverse, rest) := by
  rw [readItems, h]
  rfl

lemma readItems_next {read : List Value}
    (h : readValue fuel room t = .ok (v, Text.ofString ", " ++ u)) (hu : Opens u) :
    readItems (fuel + 1) room read t = readItems fuel room (v :: read) u := by
  have hblank : skipBlanks (CodePoint.ofChar ' ' :: u) = u := by
    rw [skipBlanks_blank (by decide), skipBlanks_opens hu]
  have hcomma : skipBlanks (Text.ofString ", " ++ u) =
      CodePoint.ofChar ',' :: CodePoint.ofChar ' ' :: u := rfl
  rw [readItems, h]
  simp only [hcomma, if_neg (show CodePoint.ofChar ',' ≠ CodePoint.ofChar ']' by decide), if_true,
    hblank]

lemma readFields_field {read : Fields} {name left : Text} {d : CodePoint} (ht : Opens t)
    (h : readValue fuel room t = .ok (v, d :: left)) (hd : isBlank d = false) :
    readFields (fuel + 1) room read (writeText name ++ Text.ofString ": " ++ t) =
      if d = CodePoint.ofChar '\x7d' then
        .ok (.object (Fields.ofList ((Text.joinPairs name, v) :: read).reverse), left)
      else if d = CodePoint.ofChar ',' then
        readFields fuel room ((Text.joinPairs name, v) :: read) (skipBlanks left)
      else .error (.malformed .expectingComma (d :: left)) := by
  have hopen : writeText name ++ Text.ofString ": " ++ t =
      CodePoint.ofChar '"' :: (name.flatMap escapeChar ++
        CodePoint.ofChar '"' :: (Text.ofString ": " ++ t)) := by
    rw [writeText, List.append_assoc, List.append_assoc, List.append_assoc]
    rfl
  have hcolon : skipBlanks (Text.ofString ": " ++ t) =
      CodePoint.ofChar ':' :: CodePoint.ofChar ' ' :: t := rfl
  have hblank : skipBlanks (CodePoint.ofChar ' ' :: t) = t := by
    rw [skipBlanks_blank (by decide), skipBlanks_opens ht]
  rw [hopen, readFields.eq_def]
  simp only [if_true, readString_write, hcolon, hblank, h, skipBlanks_cons hd, List.reverse_nil,
    List.nil_append]

lemma readFields_last {read : Fields} {name : Text} (ht : Opens t)
    (h : readValue fuel room t = .ok (v, CodePoint.ofChar '\x7d' :: rest)) :
    readFields (fuel + 1) room read (writeText name ++ Text.ofString ": " ++ t) =
      .ok (.object (Fields.ofList ((Text.joinPairs name, v) :: read).reverse), rest) := by
  rw [readFields_field ht h (by decide), if_pos rfl]

lemma readFields_next {read : Fields} {name : Text} (ht : Opens t)
    (h : readValue fuel room t = .ok (v, Text.ofString ", " ++ u)) (hu : Opens u) :
    readFields (fuel + 1) room read (writeText name ++ Text.ofString ": " ++ t) =
      readFields fuel room ((Text.joinPairs name, v) :: read) u := by
  have hcomma : Text.ofString ", " ++ u = CodePoint.ofChar ',' :: CodePoint.ofChar ' ' :: u := rfl
  rw [hcomma] at h
  rw [readFields_field ht h (by decide), if_neg (by decide), if_pos rfl,
    skipBlanks_blank (by decide), skipBlanks_opens hu]

end

/-! ### Whole values -/

lemma ends_of_head {c : CodePoint} (hc : c = CodePoint.ofChar ',' ∨ c = CodePoint.ofChar ']' ∨
    c = CodePoint.ofChar '\x7d') (t : Text) : Ends (c :: t) := by
  intro d hd
  rwa [← Option.some.inj hd]

lemma ends_comma (t : Text) : Ends (Text.ofString ", " ++ t) :=
  ends_of_head (c := CodePoint.ofChar ',') (.inl rfl) (CodePoint.ofChar ' ' :: t)

lemma opens_join {t : Text} (ht : Opens t) (sep : Text) (rest : List Text) :
    Opens (Text.join sep (t :: rest)) := by
  cases rest with
  | nil => rwa [join_singleton]
  | cons u rest =>
    rw [join_cons_cons]
    exact opens_append ht _

lemma join_writeFields (name : Text) (v : Value) (fields : List (Text × Value)) :
    ∃ t, Text.join ", " (writeFields ((name, v) :: fields)) = CodePoint.ofChar '"' :: t := by
  cases fields with
  | nil => exact ⟨_, by rw [writeFields, writeFields, join_singleton]; rfl⟩
  | cons field fields =>
    obtain ⟨name', w⟩ := field
    exact ⟨_, by rw [writeFields, writeFields, join_cons_cons]; rfl⟩

lemma length_brackets (left right : String) (t : Text) (hleft : (Text.ofString left).length = 1)
    (hright : (Text.ofString right).length = 1) :
    (Text.ofString left ++ t ++ Text.ofString right).length = t.length + 2 := by
  rw [List.length_append, List.length_append, hleft, hright]
  omega

mutual

/-- Reading what was written for a value gives it back, whatever may follow it in a document. -/
lemma readValue_write (v : Value) {fuel room : Nat} {rest : Text} (h : isTold v = true)
    (hroom : height v ≤ room) (hfuel : 2 * (write v).length < fuel) (hrest : Ends rest) :
    readValue fuel room (write v ++ rest) = .ok (reread v, rest) := by
  -- Reading takes at most two steps for a character: one into a container, one to its next part.
  obtain ⟨fuel, rfl⟩ : ∃ n, fuel = n + 1 := ⟨fuel - 1, by omega⟩
  match v with
  | .null => rfl
  | .bool true => rfl
  | .bool false => rfl
  | .int n =>
    rw [isTold, decide_eq_true_eq] at h
    rw [write]
    exact readValue_ofInt h hrest
  | .text t =>
    rw [write, readValue_writeText, reread]
  | .list [] =>
    obtain ⟨room, rfl⟩ : ∃ n, room = n + 1 := ⟨room - 1, by rw [height] at hroom; omega⟩
    rfl
  | .list (v :: items) =>
    rw [height] at hroom
    obtain ⟨room, rfl⟩ : ∃ n, room = n + 1 := ⟨room - 1, by omega⟩
    rw [isTold] at h
    rw [write, length_brackets _ _ _ rfl rfl] at hfuel
    have hitems : readItems fuel room [] (Text.join ", " (writeItems (v :: items)) ++
        CodePoint.ofChar ']' :: rest) = _ :=
      readItems_write (v :: items) (by simp) h (by omega) (by omega)
    rw [areTold, Bool.and_eq_true] at h
    have hopens := opens_append (opens_join (opens_write h.1) ", " (writeItems items))
      (CodePoint.ofChar ']' :: rest)
    rw [write, List.append_assoc, List.append_assoc]
    exact (readValue_list hopens).trans hitems
  | .object [] =>
    obtain ⟨room, rfl⟩ : ∃ n, room = n + 1 := ⟨room - 1, by rw [height] at hroom; omega⟩
    rfl
  | .object ((name, v) :: fields) =>
    rw [height] at hroom
    obtain ⟨room, rfl⟩ : ∃ n, room = n + 1 := ⟨room - 1, by omega⟩
    rw [isTold] at h
    rw [write, length_brackets _ _ _ rfl rfl] at hfuel
    have hfields : readFields fuel room [] (Text.join ", " (writeFields ((name, v) :: fields)) ++
        CodePoint.ofChar '\x7d' :: rest) = _ :=
      readFields_write ((name, v) :: fields) (by simp) h (by omega) (by omega)
    obtain ⟨t, ht⟩ := join_writeFields name v fields
    rw [ht] at hfields
    rw [write, List.append_assoc, List.append_assoc, ht]
    exact readValue_object.trans hfields

lemma readItems_write (items : List Value) {fuel room : Nat} {read : List Value} {rest : Text}
    (hne : items ≠ []) (h : areTold items = true) (hroom : heightOfItems items ≤ room)
    (hfuel : 2 * (Text.join ", " (writeItems items)).length + 1 < fuel) :
    readItems fuel room read
        (Text.join ", " (writeItems items) ++ CodePoint.ofChar ']' :: rest) =
      .ok (.list (read.reverse ++ rereadItems items), rest) := by
  obtain ⟨fuel, rfl⟩ : ∃ n, fuel = n + 1 := ⟨fuel - 1, by omega⟩
  match items, hne with
  | [v], _ =>
    rw [areTold, Bool.and_eq_true] at h
    rw [heightOfItems] at hroom
    rw [writeItems, writeItems, join_singleton] at hfuel ⊢
    have hread : readValue fuel room (write v ++ CodePoint.ofChar ']' :: rest) = _ :=
      readValue_write v h.1 (by omega) (by omega) (ends_of_head (by simp) rest)
    rw [readItems_last hread]
    simp [rereadItems]
  | v :: w :: items, _ =>
    rw [areTold, Bool.and_eq_true] at h
    rw [heightOfItems] at hroom
    have hopens : Opens (Text.join ", " (writeItems (w :: items))) := by
      have hw := h.2
      rw [areTold, Bool.and_eq_true] at hw
      exact opens_join (opens_write hw.1) ", " (writeItems items)
    rw [writeItems, writeItems, join_cons_cons, ← writeItems] at hfuel ⊢
    simp only [List.length_append] at hfuel
    have hseparator : (Text.ofString ", ").length = 2 := rfl
    have hread : readValue fuel room (write v ++ (Text.ofString ", " ++
        (Text.join ", " (writeItems (w :: items)) ++ CodePoint.ofChar ']' :: rest))) = _ :=
      readValue_write v h.1 (by omega) (by omega) (ends_comma _)
    have hitems : readItems fuel room (reread v :: read)
        (Text.join ", " (writeItems (w :: items)) ++ CodePoint.ofChar ']' :: rest) = _ :=
      readItems_write (w :: items) (by simp) h.2 (by omega) (by omega)
    rw [List.append_assoc, List.append_assoc, readItems_next hread (opens_append hopens _), hitems]
    simp [rereadItems]

lemma readFields_write (fields : List (Text × Value)) {fuel room : Nat} {read : Fields}
    {rest : Text} (hne : fields ≠ []) (h : areToldFields fields = true)
    (hroom : heightOfFields fields ≤ room)
    (hfuel : 2 * (Text.join ", " (writeFields fields)).length + 1 < fuel) :
    readFields fuel room read
        (Text.join ", " (writeFields fields) ++ CodePoint.ofChar '\x7d' :: rest) =
      .ok (.object (Fields.ofList (read.reverse ++ rereadFields fields)), rest) := by
  obtain ⟨fuel, rfl⟩ : ∃ n, fuel = n + 1 := ⟨fuel - 1, by omega⟩
  match fields, hne with
  | [(name, v)], _ =>
    rw [areToldFields, Bool.and_eq_true] at h
    rw [heightOfFields] at hroom
    rw [writeFields, writeFields, join_singleton] at hfuel ⊢
    simp only [List.length_append] at hfuel
    have hread : readValue fuel room (write v ++ CodePoint.ofChar '\x7d' :: rest) = _ :=
      readValue_write v h.1 (by omega) (by omega) (ends_of_head (by simp) rest)
    rw [List.append_assoc _ (write v), readFields_last (opens_append (opens_write h.1) _) hread]
    simp [rereadFields]
  | (name, v) :: (name', w) :: fields, _ =>
    rw [areToldFields, Bool.and_eq_true] at h
    rw [heightOfFields] at hroom
    obtain ⟨t, ht⟩ := join_writeFields name' w fields
    have hopens : Opens (Text.join ", " (writeFields ((name', w) :: fields))) :=
      ht ▸ ⟨_, t, rfl, by decide, by decide, by decide⟩
    rw [writeFields, writeFields, join_cons_cons, ← writeFields] at hfuel ⊢
    simp only [List.length_append] at hfuel
    have hseparator : (Text.ofString ", ").length = 2 := rfl
    have hread : readValue fuel room (write v ++ (Text.ofString ", " ++
        (Text.join ", " (writeFields ((name', w) :: fields)) ++ CodePoint.ofChar '\x7d' :: rest))) =
        _ :=
      readValue_write v h.1 (by omega) (by omega) (ends_comma _)
    have hfields : readFields fuel room ((Text.joinPairs name, reread v) :: read)
        (Text.join ", " (writeFields ((name', w) :: fields)) ++ CodePoint.ofChar '\x7d' :: rest) =
        _ :=
      readFields_write ((name', w) :: fields) (by simp) h.2 (by omega) (by omega)
    rw [List.append_assoc, List.append_assoc _ (write v), List.append_assoc _ _ (_ :: _),
      readFields_next (opens_append (opens_write h.1) _) hread (opens_append hopens _), hfields]
    simp [rereadFields]

end

lemma read_of_readValue {t : Text} {v : Value} (hopens : Opens t)
    (h : readValue (fuelFor t) maxDepth t = .ok (v, [])) : Json.read t = .ok v := by
  -- A byte order mark would be refused, but a document starts with an ASCII character.
  have hmark : ¬t.head?.map CodePoint.val = some 0xFEFF := by
    obtain ⟨c, u, rfl, -, -, hascii⟩ := hopens
    simp only [List.head?_cons, Option.map_some, Option.some.injEq]
    omega
  rw [Json.read, if_neg hmark, readText, skipBlanks_opens hopens, h]
  rfl

/-- Reading what was written for a value gives it back. -/
theorem read_write {v : Value} (h : isTold v = true) (hdepth : height v ≤ maxDepth) :
    Json.read (write v) = .ok (reread v) := by
  have hread : readValue (fuelFor (write v)) maxDepth (write v ++ []) = .ok (reread v, []) :=
    readValue_write v h hdepth (by rw [fuelFor]; omega) (by simp [Ends])
  rw [List.append_nil] at hread
  exact read_of_readValue (opens_write h) hread

theorem read_write_settled {v : Value} (h : isTold v = true) (hdepth : height v ≤ maxDepth)
    (hsettled : Settled v) : Json.read (write v) = .ok v := by
  rw [read_write h hdepth, reread_settled v hsettled]

/-! ### Documents in bytes -/

def isObject : Value → Bool
  | .object _ => true
  | _ => false

lemma readItems_not_object {fuel room : Nat} {read : List Value} {t rest : Text} {v : Value}
    (h : readItems fuel room read t = .ok (v, rest)) : isObject v = false := by
  induction fuel generalizing read t with
  | zero => simp [readItems] at h
  | succ fuel ih =>
    cases itemsRead_of_eq h with
    | last => rfl
    | next _ _ hmore => exact ih hmore

lemma readFields_start {fuel room : Nat} {read : Fields} {t rest : Text} {v : Value}
    (h : readFields fuel room read t = .ok (v, rest)) : ∃ u, t = CodePoint.ofChar '"' :: u := by
  cases fuel with
  | zero => simp [readFields] at h
  | succ fuel => cases fieldsRead_of_eq h with
    | last hfield | next hfield =>
      cases hfield
      exact ⟨_, rfl⟩

lemma readValue_object_start {fuel room : Nat} {t rest : Text} {fields : Fields}
    (h : readValue fuel room t = .ok (.object fields, rest)) :
    ∃ u d w, t = CodePoint.ofChar '\x7b' :: u ∧ skipBlanks u = d :: w ∧
      (d = CodePoint.ofChar '\x7d' ∨ d = CodePoint.ofChar '"') := by
  cases fuel with
  | zero => simp [readValue] at h
  | succ fuel =>
    cases valueRead_of_eq h with
    | items inner hitems => exact absurd (readItems_not_object hitems) (by simp [isObject])
    | noFields hclose => exact ⟨_, _, _, rfl, hclose, .inl rfl⟩
    | fields inner hfields =>
      obtain ⟨w, hquote⟩ := readFields_start hfields
      exact ⟨_, _, w, rfl, hquote, .inr rfl⟩
    | plain hplain => simp [isPlain] at hplain

lemma skipBlanks_eq_cons {t u : Text} {d : CodePoint} (h : skipBlanks t = d :: u) :
    ∃ c w, t = c :: w ∧ (c = d ∧ w = u ∨ isBlank c = true ∧ skipBlanks w = d :: u) := by
  cases t with
  | nil => simp [skipBlanks] at h
  | cons c w =>
    refine ⟨c, w, rfl, ?_⟩
    cases hc : isBlank c with
    | true => exact .inr ⟨rfl, by rwa [skipBlanks_blank hc] at h⟩
    | false =>
      rw [skipBlanks_cons hc] at h
      exact .inl (List.cons.inj h)

def isPlainAscii (c : CodePoint) : Bool := 0 < c.val && c.val < 0x80

lemma isPlainAscii_of_isBlank {c : CodePoint} (hc : isBlank c = true) : isPlainAscii c = true := by
  simp only [isBlank, Bool.or_eq_true, beq_iff_eq] at hc
  simp only [isPlainAscii, Bool.and_eq_true, decide_eq_true_eq]
  omega

lemma object_start {t rest : Text} {fuel room : Nat} {fields : Fields}
    (h : readValue fuel room (skipBlanks t) = .ok (.object fields, rest)) :
    ∃ c d u, t = c :: d :: u ∧ isPlainAscii c = true ∧ isPlainAscii d = true := by
  obtain ⟨u, d, w, hbrace, hskip, hd⟩ := readValue_object_start h
  have hplain : isPlainAscii d = true := by
    obtain rfl | rfl := hd <;> decide
  obtain ⟨c, v, rfl, ⟨rfl, rfl⟩ | ⟨hblank, hmore⟩⟩ := skipBlanks_eq_cons hbrace
  · obtain ⟨e, x, rfl, ⟨rfl, -⟩ | ⟨hblank, -⟩⟩ := skipBlanks_eq_cons hskip
    · exact ⟨_, _, x, rfl, by decide, hplain⟩
    · exact ⟨_, _, x, rfl, by decide, isPlainAscii_of_isBlank hblank⟩
  · obtain ⟨e, x, rfl, ⟨rfl, -⟩ | ⟨hblank', -⟩⟩ := skipBlanks_eq_cons hmore
    · exact ⟨_, _, x, rfl, isPlainAscii_of_isBlank hblank, by decide⟩
    · exact ⟨_, _, x, rfl, isPlainAscii_of_isBlank hblank, isPlainAscii_of_isBlank hblank'⟩

lemma encodeChar_plainAscii {c : CodePoint} (hc : isPlainAscii c = true) :
    ∃ b : UInt8, Text.Utf8.encodeChar c = [b] ∧ 0 < b.toNat ∧ b.toNat < 0x80 := by
  simp only [isPlainAscii, Bool.and_eq_true, decide_eq_true_eq] at hc
  refine ⟨UInt8.ofNat c.val, by rw [Text.Utf8.encodeChar, if_pos hc.2], ?_⟩
  rw [uint8_toNat_ofNat (by omega)]
  exact hc

lemma decode_plainAscii {a b : UInt8} (ha : 0 < a.toNat ∧ a.toNat < 0x80) (hb : 0 < b.toNat)
    (rest : Bytes) : Json.decode (a :: b :: rest) = Text.Utf8.decodeLenient (a :: b :: rest) := by
  have ha0 : a ≠ 0 := by
    rintro rfl
    simp at ha
  have hb0 : b ≠ 0 := by
    rintro rfl
    simp at hb
  have hfirst : ∀ x : UInt8, x.toNat = 0 ∨ 0x80 ≤ x.toNat → (x == a) = false := by
    intro x hx
    refine beq_false_of_ne ?_
    rintro rfl
    omega
  have hunmarked : (marks.find? fun mark => mark.1.isPrefixOf (a :: b :: rest)) = none := by
    simp only [marks, List.find?, List.isPrefixOf, hfirst 0x00 (by decide), hfirst 0xFF (by decide),
      hfirst 0xFE (by decide), hfirst 0xEF (by decide), Bool.false_and]
  rw [Json.decode, hunmarked]
  rcases rest with _ | ⟨c, _ | ⟨d, tail⟩⟩
  · simp only [decodeUnmarked, if_neg ha0, if_neg hb0]
  · rfl
  · simp only [decodeUnmarked, if_neg ha0, if_neg hb0]

lemma readValue_of_read {t : Text} {v : Value} (h : Json.read t = .ok v) :
    ∃ rest, readValue (fuelFor t) maxDepth (skipBlanks t) = .ok (v, rest) := by
  rw [Json.read, readText] at h
  split at h
  · simp at h
  split at h
  · simp at h
  next value rest hread =>
  refine ⟨rest, hread.trans ?_⟩
  split at h
  · rw [Except.ok.inj h]
  · simp at h

theorem readBytes_of_encode {t : Text} {bytes : Bytes} {fields : Fields}
    (h : Json.read t = .ok (.object fields)) (hbytes : Text.Utf8.encode t = .ok bytes) :
    Json.readBytes bytes = .ok (.object fields) := by
  have htext : readText t = .ok (.object fields) := by
    rw [Json.read] at h
    split at h
    · simp at h
    · exact h
  obtain ⟨rest, hread⟩ := readValue_of_read h
  obtain ⟨c, d, u, rfl, hc, hd⟩ := object_start hread
  obtain ⟨a, hencode, ha⟩ := encodeChar_plainAscii hc
  obtain ⟨b, hencode', hb⟩ := encodeChar_plainAscii hd
  have hdecode : Json.decode bytes = .ok (c :: d :: u) := by
    rw [← decodeLenient_of_encode hbytes]
    obtain ⟨-, rfl⟩ := utf8_encode_eq_ok_iff.mp hbytes
    rw [List.flatMap_cons, List.flatMap_cons, hencode, hencode']
    exact decode_plainAscii ha hb.1 _
  rw [readBytes, hdecode]
  exact htext

end EnvelopeStore.Proofs
