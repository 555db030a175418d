import EnvelopeStore.Proofs.PlainMap

/-!
# Clients that share a store without noticing

Where no key of one client can be a key of another, each of the two is answered as if the other had
never been there. Both runs are compared with plain maps, which agree on every text that is not the
other's; what differs between the runs, such as key ids, wrapped keys and the place in the source of
entropy, does not show there.
-/

namespace EnvelopeStore.Proofs
open Text

/-! ### Keys of two clients -/

/-- The keys of neither client begin like those of the other. -/
def KeysApart (c c' : Client) : Prop := ¬c.keyBase <+: c'.keyBase ∧ ¬c'.keyBase <+: c.keyBase

def slash : CodePoint := CodePoint.ofChar '/'

lemma KeysApart.symm {c c' : Client} (h : KeysApart c c') : KeysApart c' c := ⟨h.2, h.1⟩

lemma KeysApart.not_prefix {c c' : Client} (h : KeysApart c c') (key : Text) :
    ¬c'.keyBase <+: c.fullKey key := by
  intro hother
  have hown : c.keyBase <+: c.fullKey key := List.prefix_append c.keyBase key
  obtain hbase | hbase := List.prefix_or_prefix_of_prefix hown hother
  · exact h.1 hbase
  · exact h.2 hbase

lemma keyBase_eq (c : Client) : c.keyBase = c.area ++ slash :: (c.account ++ slash :: []) := by
  unfold Client.keyBase
  simp only [List.append_assoc]
  rfl

lemma eq_of_keyBase_prefix {c c' : Client} (harea : slash ∉ c.area) (harea' : slash ∉ c'.area)
    (haccount : slash ∉ c.account) (haccount' : slash ∉ c'.account)
    (h : c.keyBase <+: c'.keyBase) : c.area = c'.area ∧ c.account = c'.account := by
  obtain ⟨rest, hrest⟩ := h
  rw [keyBase_eq, keyBase_eq, List.append_assoc, List.cons_append] at hrest
  obtain ⟨hsame, htail⟩ := append_cons_inj harea harea' hrest
  rw [List.append_assoc, List.cons_append] at htail
  exact ⟨hsame, (append_cons_inj haccount haccount' htail).1⟩

lemma keysApart_of_ne {c c' : Client} (harea : slash ∉ c.area) (harea' : slash ∉ c'.area)
    (haccount : slash ∉ c.account) (haccount' : slash ∉ c'.account)
    (hne : (c.area, c.account) ≠ (c'.area, c'.account)) : KeysApart c c' := by
  constructor
  · intro h
    obtain ⟨hsame, hsame'⟩ := eq_of_keyBase_prefix harea harea' haccount haccount' h
    exact hne (Prod.ext hsame hsame')
  · intro h
    obtain ⟨hsame, hsame'⟩ := eq_of_keyBase_prefix harea' harea haccount' haccount h
    exact hne (Prod.ext hsame.symm hsame'.symm)

/-! ### Plain maps that agree outside one client's keys -/

namespace Plain

/-- Two plain maps have the same texts under all keys that do not begin with `base`. -/
def AgreeOutside (base : Text) (plain plain' : Plain) : Prop :=
  ∀ key, ¬base <+: key → plain.texts key = plain'.texts key

section

variable {denied : List Value} {base : Text} {plain plain' : Plain} {c c' : Client} {task : Task}
  {r r' : Except Failure Response}

lemma AgreeOutside.allows (h : AgreeOutside c'.keyBase plain plain') (hapart : KeysApart c c')
    (htask : task ≠ .getKeyId) (hr : plain.Allows denied c task r) :
    plain'.Allows denied c task r := by
  have hsame : ∀ key, plain.texts (c.fullKey key) = plain'.texts (c.fullKey key) :=
    fun key => h _ (hapart.not_prefix key)
  cases task with
  | set key text => exact hr
  | get key =>
    simp only [Allows, hsame key] at hr ⊢
    exact hr
  | delete key => exact hr
  | list start =>
    obtain ⟨keys, hkeys, hsorted, hmem⟩ := hr
    refine ⟨keys, hkeys, hsorted, ?_⟩
    intro key
    rw [hmem, hsame key]
  | getKeyId => exact absurd rfl htask

lemma AgreeOutside.update (h : AgreeOutside base plain plain') (key : Text)
    (text : Option (Text × Text)) (groups groups' : List Text) :
    AgreeOutside base ⟨Function.update plain.texts key text, groups⟩
      ⟨Function.update plain'.texts key text, groups'⟩ := by
  intro other hother
  by_cases hkey : other = key
  · simp only [hkey, Function.update_self]
  · simp only [Function.update_of_ne hkey]
    exact h other hother

lemma AgreeOutside.next (h : AgreeOutside base plain plain') (denied : List Value) (c : Client)
    (task : Task) : AgreeOutside base (plain.next denied c task) (plain'.next denied c task) := by
  cases task with
  | set key text =>
    simp only [Plain.next]
    split
    · exact h
    · by_cases hrefused : refused denied c = true
      · simp only [hrefused, if_true]
        exact h
      · simp only [hrefused]
        exact h.update _ _ _ _
  | get key => exact h
  | delete key => exact h.update _ _ _ _
  | list start => exact h
  | getKeyId =>
    simp only [Plain.next]
    by_cases hrefused : refused denied c = true
    · simp only [hrefused, if_true]
      exact h
    · simp only [hrefused]
      exact h

lemma update_agreeOutside {key : Text} (hkey : base <+: key) (text : Option (Text × Text))
    (groups : List Text) (h : AgreeOutside base plain plain') :
    AgreeOutside base ⟨Function.update plain.texts key text, groups⟩ plain' := by
  intro other hother
  have hne : other ≠ key := by
    rintro rfl
    exact hother hkey
  simp only [Function.update_of_ne hne]
  exact h other hother

lemma AgreeOutside.next_own (h : AgreeOutside c.keyBase plain plain') (denied : List Value)
    (task : Task) : AgreeOutside c.keyBase (plain.next denied c task) plain' := by
  have hbase : ∀ key, c.keyBase <+: c.fullKey key := fun key => List.prefix_append c.keyBase key
  cases task with
  | set key text =>
    simp only [Plain.next]
    split
    · exact h
    · by_cases hrefused : refused denied c = true
      · simp only [hrefused, if_true]
        exact h
      · simp only [hrefused]
        exact update_agreeOutside (hbase key) _ _ h
  | get key => exact h
  | delete key => exact update_agreeOutside (hbase key) _ _ h
  | list start => exact h
  | getKeyId =>
    simp only [Plain.next]
    by_cases hrefused : refused denied c = true
    · simp only [hrefused, if_true]
      exact h
    · simp only [hrefused]
      exact h

end

end Plain

/-! ### Two runs -/

section

variable {ι : Type} [DecidableEq ι] {denied : List Value} {members : ι → Member}

/-- The tasks without those of one client. -/
def tasksWithout (i : ι) (tasks : List (ι × Task)) : List (ι × Task) := tasks.filter (·.1 ≠ i)

def answersTo (i : ι) : List (ι × Task) → List (Except Failure Response) →
    List (Except Failure Response)
  | (j, _) :: tasks, r :: rs => if j = i then r :: answersTo i tasks rs else answersTo i tasks rs
  | _, _ => []

lemma answersTo_eq {i j : ι} (hapart : KeysApart (members i).client (members j).client)
    {tasks : List (ι × Task)} (htasks : ∀ x ∈ tasks, x.2 ≠ .getKeyId) {plain plain' : Plain}
    (h : plain.AgreeOutside (members j).client.keyBase plain') {rs rs' : List _}
    (hrs : plain.Explains denied members tasks rs)
    (hrs' : plain'.Explains denied members (tasksWithout j tasks) rs') :
    answersTo i tasks rs = answersTo i (tasksWithout j tasks) rs' := by
  have hij : j ≠ i := by
    rintro rfl
    exact hapart.1 (List.prefix_refl _)
  -- On the tasks: those of `j` go on in the first run alone, all others in both.
  induction tasks generalizing plain plain' rs rs' with
  | nil => rfl
  | cons head rest ih =>
    obtain ⟨k, task⟩ := head
    have hrest : ∀ x ∈ rest, x.2 ≠ .getKeyId := fun x hx => htasks x (List.mem_cons_of_mem _ hx)
    cases rs with
    | nil => exact hrs.elim
    | cons r rs =>
      obtain ⟨hallows, hexplains⟩ := hrs
      by_cases hkj : k = j
      · subst hkj
        have hwithout : tasksWithout k ((k, task) :: rest) = tasksWithout k rest := by
          simp [tasksWithout]
        rw [hwithout] at hrs' ⊢
        rw [answersTo, if_neg hij]
        exact ih hrest (h.next_own denied task) hexplains hrs'
      · have hwithout : tasksWithout j ((k, task) :: rest) = (k, task) :: tasksWithout j rest := by
          simp [tasksWithout, hkj]
        rw [hwithout] at hrs' ⊢
        cases rs' with
        | nil => exact hrs'.elim
        | cons r' rs' =>
          obtain ⟨hallows', hexplains'⟩ := hrs'
          have hanswers := ih hrest (h.next denied (members k).client task) hexplains hexplains'
          rw [answersTo, answersTo, hanswers]
          by_cases hki : k = i
          · subst hki
            have hseen := h.allows hapart (htasks _ List.mem_cons_self) hallows
            rw [Plain.allows_unique hseen hallows']
          · rw [if_neg hki, if_neg hki]

lemma totalCost_tasksWithout_le (i : ι) (tasks : List (ι × Task)) :
    totalCost (tasksWithout i tasks) ≤ totalCost tasks := by
  induction tasks with
  | nil => exact le_refl _
  | cons head rest ih =>
    obtain ⟨j, task⟩ := head
    by_cases hj : j = i
    · simp only [tasksWithout, hj, totalCost, ne_eq, not_true_eq_false, decide_false,
        Bool.false_eq_true, not_false_eq_true, List.filter_cons_of_neg] at ih ⊢
      omega
    · simp only [tasksWithout, hj, totalCost, ne_eq, not_false_eq_true, decide_true,
        List.filter_cons_of_pos] at ih ⊢
      omega

lemma answersTo_responses {i j : ι} (hapart : KeysApart (members i).client (members j).client)
    {tasks : List (ι × Task)} (htasks : ∀ x ∈ tasks, x.2 ≠ .getKeyId) (denied : List Value)
    {e : Entropy} (hleft : e.hasLeft (totalCost tasks) = true) :
    answersTo i tasks ((Fleet.start denied e).responses members tasks) =
      answersTo i (tasksWithout j tasks)
        ((Fleet.start denied e).responses members (tasksWithout j tasks)) := by
  have hlinked := linked_start denied members e
  have hleft' : e.hasLeft (totalCost (tasksWithout j tasks)) = true :=
    hasLeft_of_le hleft (totalCost_tasksWithout_le j tasks)
  exact answersTo_eq hapart htasks (fun _ _ => rfl) (responses_explained hlinked tasks hleft)
    (responses_explained hlinked _ hleft')

/-- Two clients of one store and one registry, of which neither has keys that begin like those of
the other, do not notice each other: each is answered as if all tasks of the other were left out,
whatever keys and beginnings of keys they use, in any order. Clients with different names are apart
in this way if no namespace and no account holds a slash. -/
theorem apart_clients_do_not_notice_each_other (denied : List Value) (members : ι → Member)
    (e : Entropy) (i j : ι) :
    let c := (members i).client
    let c' := (members j).client
    (slash ∉ c.area → slash ∉ c.account → slash ∉ c'.area → slash ∉ c'.account →
      (c.area, c.account) ≠ (c'.area, c'.account) → KeysApart c c') ∧
    (KeysApart c c' → ∀ tasks : List (ι × Task), (∀ x ∈ tasks, x.2 ≠ .getKeyId) →
      e.hasLeft (totalCost tasks) = true →
      let answers := fun tasks => (Fleet.start denied e).responses members tasks
      answersTo i tasks (answers tasks) =
        answersTo i (tasksWithout j tasks) (answers (tasksWithout j tasks)) ∧
      answersTo j tasks (answers tasks) =
        answersTo j (tasksWithout i tasks) (answers (tasksWithout i tasks))) := by
  intro c c'
  constructor
  · intro harea haccount harea' haccount' hne
    exact keysApart_of_ne harea harea' haccount haccount' hne
  · intro hapart tasks htasks hleft answers
    exact ⟨answersTo_responses hapart htasks denied hleft,
      answersTo_responses hapart.symm htasks denied hleft⟩

end

/-- One account's name is the beginning of the other's, and its user's keys go on as the other's
name does. -/
theorem names_that_begin_alike_stay_apart :
    let al : Client := ⟨"al", "privatekv", "private", by decide, by decide, by decide⟩
    let alice : Client := ⟨"alice", "privatekv", "private", by decide, by decide, by decide⟩
    let members : Bool → Member := fun isAlice =>
      ⟨if isAlice then alice else al, .oneShot, by cases isAlice <;> decide,
        by cases isAlice <;> decide⟩
    let tasks : List (Bool × Task) := [(true, .set "k" "hi"), (false, .set "ice/k" "no"),
      (false, .delete "/../alice/k"), (false, .list ""), (true, .get "k")]
    let answers := fun tasks => (Fleet.start [] (Entropy.seeded 7 none)).responses members tasks
    KeysApart alice al ∧ answersTo true tasks (answers tasks) =
      answersTo true [(true, .set "k" "hi"), (true, .get "k")]
        (answers [(true, .set "k" "hi"), (true, .get "k")]) := by
  intro al alice members tasks answers
  obtain ⟨happart, hsame⟩ :=
    apart_clients_do_not_notice_each_other [] members (Entropy.seeded 7 none) true false
  have hapart : KeysApart alice al :=
    happart (by decide) (by decide) (by decide) (by decide) (by decide)
  refine ⟨hapart, (hsame hapart tasks ?_ rfl).1⟩
  intro x hx
  simp only [tasks, List.mem_cons, List.not_mem_nil, or_false] at hx
  obtain rfl | rfl | rfl | rfl | rfl := hx <;> exact nofun

end EnvelopeStore.Proofs
