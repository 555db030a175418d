import EnvelopeStore.Proofs.Patterns
import EnvelopeStore.Proofs.RowService
import EnvelopeStore.Proofs.Statements
import EnvelopeStore.Proofs.StoreMaps
import EnvelopeStore.Table.Store

/-!
# A map of records in a table

A database that does with a table what the statements it is sent say makes the store a map of records.
It answers as the map in memory does, but for the order of a listing, which is that of the database.
-/

namespace EnvelopeStore.Proofs
open Table

/-- A text that a database can hold: characters, and none of them zero. -/
def Storable (t : Text) : Prop := SurrogateFree t ∧ ∀ c ∈ t, c.val ≠ 0

instance (t : Text) : Decidable (Storable t) :=
  inferInstanceAs (Decidable (SurrogateFree t ∧ ∀ c ∈ t, c.val ≠ 0))

/-- What is found for a key: a row with the document in it, or none. -/
def ShowsEntry : Option Text → Option Value → Prop
  | none, row => row = none
  | some document, row => ∃ fields : Fields, row = some (.object fields) ∧
      fields.get? "entry" = some (.text document)

/-- A database that does with a table what the statements say that it is handed, while it is `ready`. The
table has one `row` for each key, and texts are sorted by `order`. Only texts that can be held are, and
patterns that are not well formed are refused. -/
structure SqlTable {σ : Type} (pool : Pool σ) (table : Name) where
  ready : σ → Prop
  row : σ → Text → Option Text
  order : Text → Text → Prop
  stores : ∀ {s sql key document}, ready s → Means table sql .upsert → Storable key →
    Storable document →
    ∃ answer s', pool ⟨.execute, sql, [.text key, .text document]⟩ s = .ok answer s' ∧
      ready s' ∧ row s' = Function.update (row s) key (some document)
  deletes : ∀ {s sql key}, ready s → Means table sql .delete → Storable key →
    ∃ answer s', pool ⟨.execute, sql, [.text key]⟩ s = .ok answer s' ∧
      ready s' ∧ row s' = Function.update (row s) key none
  truncates : ∀ {s sql}, ready s → Means table sql .truncate →
    ∃ answer s', pool ⟨.execute, sql, []⟩ s = .ok answer s' ∧
      ready s' ∧ row s' = fun _ => none
  finds : ∀ {s sql key}, ready s → Means table sql .find → Storable key →
    ∃ answer s', pool ⟨.fetchRow, sql, [.text key]⟩ s = .ok answer s' ∧
      ready s' ∧ row s' = row s ∧ ShowsEntry (row s key) answer.row
  lists : ∀ {s sql pattern}, ready s → Means table sql .list → Storable pattern →
    WellFormed pattern →
    ∃ answer s' keys, pool ⟨.fetch, sql, [.text pattern]⟩ s = .ok answer s' ∧
      ready s' ∧ row s' = row s ∧ List.Forall₂ ShowsKey answer.rows keys ∧
      keys.Pairwise order ∧ keys.Nodup ∧
      ∀ key, key ∈ keys ↔ Matches pattern key ∧ (row s key).isSome = true

/-! ### Statements -/

section

variable {σ : Type} {pool : Pool σ} {table : Name} {s s' : σ} {statement : Statement}
  {args : List Value} {answer : Answer}

lemma perform_answered (h : pool (statement.query table args) s = .ok answer s') :
    (perform pool table statement args).result s = (.ok answer, s') := by
  rw [Action.result, perform, h]

lemma column_showsKey {rows : List Value} {keys : List Text} (h : List.Forall₂ ShowsKey rows keys) :
    rows.mapM (column "key") = .ok (keys.map .text) := by
  induction h with
  | nil => rfl
  | cons hhead _ ih =>
    obtain ⟨fields, rfl, hkey⟩ := hhead
    have hcolumn : ∀ key, fields.get? "key" = some (.text key) →
        column "key" (.object fields) = .ok (.text key) := by
      intro key hfield
      rw [column, hfield]
    rw [List.mapM_cons, hcolumn _ hkey, ih]
    rfl

lemma storable_document (record : Record) : Storable record.document := by
  refine ⟨surrogateFree_document record, ?_⟩
  intro c hc
  have hrange := printable_document record c hc
  omega

lemma storable_startingWith {start : Text} (h : Storable start) :
    Storable (Like.startingWith start) := by
  constructor
  · intro c hc
    obtain hc | rfl | rfl := mem_startingWith hc
    · exact h.1 c hc
    · decide
    · decide
  · intro c hc
    obtain hc | rfl | rfl := mem_startingWith hc
    · exact h.2 c hc
    · decide
    · decide

end

/-! ### The store -/

section

variable {σ : Type} {pool : Pool σ} {table : Name}

/-- The rows of a table hold the documents of records that can be read again. -/
structure TableKeeps (sql : SqlTable pool table) (kept : Contents) (s : σ) : Prop where
  ready : sql.ready s
  row : ∀ key, sql.row s key = (kept key).map Record.document
  unpaired : ∀ key record, kept key = some record → record.Unpaired

variable {sql : SqlTable pool table} {kept : Contents} {s s' : σ}

lemma tableKeeps_update (h : TableKeeps sql kept s) (hready : sql.ready s') {key : Text}
    {record : Option Record} (hunpaired : ∀ r, record = some r → r.Unpaired)
    (hrow : sql.row s' = Function.update (sql.row s) key (record.map Record.document)) :
    TableKeeps sql (Function.update kept key record) s' := by
  refine ⟨hready, ?_, ?_⟩
  · intro other
    rw [hrow]
    by_cases heq : other = key
    · rw [heq, Function.update_self, Function.update_self]
    · rw [Function.update_of_ne heq, Function.update_of_ne heq, h.row other]
  · intro other r hother
    by_cases heq : other = key
    · rw [heq, Function.update_self] at hother
      exact hunpaired r hother
    · rw [Function.update_of_ne heq] at hother
      exact h.unpaired other r hother

lemma tableKeeps_empty (hready : sql.ready s) (hnone : ∀ key, sql.row s key = none) :
    TableKeeps sql .empty s := by
  refine ⟨hready, hnone, ?_⟩
  intro key record hkept
  simp [Contents.empty] at hkept

lemma tableKeeps_same (h : TableKeeps sql kept s) (hready : sql.ready s')
    (hrow : sql.row s' = sql.row s) : TableKeeps sql kept s' :=
  ⟨hready, fun key => by rw [hrow, h.row key], h.unpaired⟩

lemma set_in_table {key : Text} {record : Record} {answer : Answer}
    (h : pool (Statement.storeEntry.query table [.text key, .text record.document]) s =
      .ok answer s') :
    ((storage pool table).set (.text key) record.entry).result s = (.ok {}, s') := by
  simp only [storage, toJson_record, Action.ofExcept_ok]
  rw [result_bind_of_ok (result_pure _ _), result_bind_of_ok (perform_answered h), result_pure]

lemma delete_in_table {key : Text} {answer : Answer}
    (h : pool (Statement.deleteEntry.query table [.text key]) s = .ok answer s') :
    ((storage pool table).delete (.text key)).result s = (.ok {}, s') := by
  simp only [storage]
  rw [result_bind_of_ok (perform_answered h), result_pure]

lemma get_in_table {key : Text} {record : Option Record} {answer : Answer}
    (h : pool (Statement.getEntry.query table [.text key]) s = .ok answer s')
    (hshows : ShowsEntry (record.map Record.document) answer.row)
    (hunpaired : ∀ r, record = some r → r.Unpaired) :
    ((storage pool table).get (.text key)).result s = (.ok (record.map Record.entry), s') := by
  simp only [storage]
  rw [result_bind_of_ok (perform_answered h)]
  cases record with
  | none =>
    have hrow : answer.row = none := hshows
    rw [hrow, result_pure, Option.map_none]
  | some record =>
    obtain ⟨fields, hrow, hentry⟩ := hshows
    have hread : (column "entry" (.object fields) >>= Entry.ofJson) = .ok record.entry := by
      have hcolumn : column "entry" (.object fields) = .ok (.text record.document) := by
        rw [column, hentry]
      rw [hcolumn, ← (joined_entry_eq_iff record).mpr (hunpaired record rfl), ← ofJson_text]
      rfl
    rw [hrow, result_map, result_ofExcept, hread]
    rfl

lemma list_in_table {start : Text} {answer : Answer} {keys : List Text}
    (h : pool (Statement.listEntries.query table [.text (Like.startingWith start)]) s =
      .ok answer s')
    (hshows : List.Forall₂ ShowsKey answer.rows keys) :
    ((storage pool table).list (.text start)).result s = (.ok (keys.map .text), s') := by
  have hpattern : pattern (.text start) = .ok (Like.startingWith start) := rfl
  simp only [storage, hpattern, Action.ofExcept_ok]
  rw [result_bind_of_ok (result_pure _ _), result_bind_of_ok (perform_answered h),
    column_showsKey hshows, Action.ofExcept_ok, result_pure]

theorem table_acts_as_map (h : TableKeeps sql kept s) {task : StoreTask}
    (htask : task.Names Storable) :
    ActsAsMap (TableKeeps sql) (fun _ _ keys => keys.Pairwise sql.order) kept task
      (task.on (storage pool table)) s := by
  cases task with
  | set key record =>
    obtain ⟨hkey, hunpaired⟩ := htask
    obtain ⟨answer, s', hpool, hready, hrow⟩ :=
      sql.stores h.ready (means_storeEntry table) hkey (storable_document record)
    refine ⟨_, s', result_map_of _ (set_in_table hpool), .set key record, ?_⟩
    refine tableKeeps_update h hready ?_ hrow
    rintro r ⟨⟩
    exact hunpaired
  | get key =>
    obtain ⟨answer, s', hpool, hready, hrow, hshows⟩ := sql.finds h.ready (means_getEntry table) htask
    rw [h.row key] at hshows
    exact ⟨_, s', result_map_of _ (get_in_table hpool hshows (h.unpaired key)), .get key,
      tableKeeps_same h hready hrow⟩
  | delete key =>
    obtain ⟨answer, s', hpool, hready, hrow⟩ := sql.deletes h.ready (means_deleteEntry table) htask
    exact ⟨_, s', result_map_of _ (delete_in_table hpool), .delete key,
      tableKeeps_update h hready (by simp) hrow⟩
  | list start =>
    obtain ⟨answer, s', keys, hpool, hready, hrow, hshows, hsorted, hnodup, hmem⟩ :=
      sql.lists h.ready (means_listEntries table) (storable_startingWith htask)
        (wellFormed_startingWith start)
    refine ⟨_, s', result_map_of _ (list_in_table hpool hshows),
      .list start keys hsorted hnodup ?_, tableKeeps_same h hready hrow⟩
    intro key
    rw [hmem, matches_startingWith_iff, h.row key, Option.isSome_map]

end

/-! ### Runs -/

/-- What a store on a table is asked for. -/
inductive TableTask
  | on (task : StoreTask)
  | truncate

namespace TableTask

def inTable {σ : Type} (pool : Pool σ) (table : Name) : TableTask → Action σ StoreAnswer
  | .on task => task.on (storage pool table)
  | .truncate => (fun _ => .done) <$> Table.truncate pool table

def inMemory : TableTask → Action Memory StoreAnswer
  | .on task => task.on Memory.storage
  | .truncate => (fun _ => .done) <$> set Memory.empty

def Names (kind : Text → Prop) : TableTask → Prop
  | .on task => task.Names kind
  | .truncate => True

end TableTask

namespace Contents

def nextInTable (kept : Contents) : TableTask → Contents
  | .on task => kept.next task
  | .truncate => .empty

def AnswersInTable (listed : Text → List Text → Prop) (kept : Contents) :
    TableTask → StoreAnswer → Prop
  | .on task, answer => kept.Answers listed task answer
  | .truncate, answer => answer = .done

end Contents

section

variable {σ : Type} {pool : Pool σ} {table : Name} {sql : SqlTable pool table} {kept : Contents}
  {s : σ} {m : Memory}

theorem table_and_memory_agree (htable : TableKeeps sql kept s) (hmemory : MemoryKeeps kept m)
    {task : TableTask} (htask : task.Names Storable) :
    ∃ answer answer' s' m', (task.inTable pool table).result s = (.ok answer, s') ∧
      task.inMemory.result m = (.ok answer', m') ∧
      kept.AnswersInTable (fun _ keys => keys.Pairwise sql.order) task answer ∧
      SameAnswer answer answer' ∧
      TableKeeps sql (kept.nextInTable task) s' ∧ MemoryKeeps (kept.nextInTable task) m' := by
  cases task with
  | on task =>
    obtain ⟨answer, s', hrun, hanswers, hkeeps⟩ := table_acts_as_map htable htask
    obtain ⟨answer', m', hrun', hanswers', hkeeps'⟩ := memory_acts_as_map hmemory task
    exact ⟨answer, answer', s', m', hrun, hrun', hanswers,
      sameAnswer_of_answers hanswers hanswers', hkeeps, hkeeps'⟩
  | truncate =>
    obtain ⟨answer, s', hpool, hready, hrow⟩ := sql.truncates htable.ready (means_truncateEntries table)
    have htruncate : (Table.truncate pool table).result s = (.ok ⟨⟩, s') := by
      rw [Table.truncate, result_bind_of_ok (perform_answered hpool), result_pure]
    have hempty : TableKeeps sql .empty s' := tableKeeps_empty hready fun key => by rw [hrow]
    exact ⟨.done, .done, s', .empty, result_map_of _ htruncate, rfl, rfl, .done, hempty,
      memoryKeeps_empty⟩

lemma tableKeeps_after (htable : TableKeeps sql kept s) (hmemory : MemoryKeeps kept m)
    {tasks : List TableTask} (htasks : ∀ task ∈ tasks, task.Names Storable) :
    TableKeeps sql (tasks.foldl Contents.nextInTable kept)
        (afterAll (·.inTable pool table) s tasks) ∧
      MemoryKeeps (tasks.foldl Contents.nextInTable kept) (afterAll TableTask.inMemory m tasks) := by
  -- Table and memory go through the tasks side by side, with the same records kept in both.
  induction tasks generalizing kept s m with
  | nil => exact ⟨htable, hmemory⟩
  | cons task rest ih =>
    obtain ⟨answer, answer', s', m', hrun, hrun', -, -, hkeeps, hkeeps'⟩ :=
      table_and_memory_agree htable hmemory (htasks task List.mem_cons_self)
    rw [List.foldl_cons, afterAll, List.foldl_cons, hrun, afterAll, List.foldl_cons, hrun']
    exact ih hkeeps hkeeps' fun other hother => htasks other (List.mem_cons_of_mem _ hother)

/-- The store on an empty table is a map of records: after any tasks, the next one succeeds, and
answers as the map does that the tasks have led to, with keys in the order of the database. A map in
memory gives the same answer to it after the same tasks, but for that order. -/
theorem table_is_a_map (sql : SqlTable pool table) (hready : sql.ready s)
    (hnone : ∀ key, sql.row s key = none) {tasks : List TableTask}
    (htasks : ∀ task ∈ tasks, task.Names Storable) {task : TableTask}
    (htask : task.Names Storable) :
    ∃ answer answer',
      ((task.inTable pool table).result (afterAll (·.inTable pool table) s tasks)).1 =
        .ok answer ∧
      (task.inMemory.result (afterAll TableTask.inMemory .empty tasks)).1 = .ok answer' ∧
      (tasks.foldl Contents.nextInTable .empty).AnswersInTable
        (fun _ keys => keys.Pairwise sql.order) task answer ∧
      SameAnswer answer answer' := by
  obtain ⟨htable, hmemory⟩ :=
    tableKeeps_after (tableKeeps_empty hready hnone) memoryKeeps_empty htasks
  obtain ⟨answer, answer', s', m', hrun, hrun', hanswers, hsame, -⟩ :=
    table_and_memory_agree htable hmemory htask
  exact ⟨answer, answer', congrArg Prod.fst hrun, congrArg Prod.fst hrun', hanswers, hsame⟩

end

/-! ### A database in memory -/

def sheetAnswer (want : Want) (command : Option Command) (args : List Value) :
    EStateM PoolFault (Bindings Text) Answer := do
  let rows ← get
  match want, command, args with
  | .execute, some .upsert, [.text key, .text document] =>
    set (rows.insert (.text key) document)
    return {}
  | .execute, some .delete, [.text key] =>
    set (rows.erase (.text key))
    return {}
  | .execute, some .truncate, [] =>
    set ([] : Bindings Text)
    return {}
  | .fetchRow, some .find, [.text key] =>
    return { row := (rows.get? (.text key)).map fun document => .object [("entry", .text document)] }
  | .fetch, some .list, [.text pattern] =>
    let keys := (rows.keys.filterMap Value.text?).filter (like pattern)
    return { rows := (Text.sort keys).map fun key => .object [("key", .text key)] }
  | _, _, _ => throw (.database "syntax error")

def sheetPool (table : Name) : Pool (Bindings Text) := fun query =>
  sheetAnswer query.want (commandOf? table query.sql) query.args

section

variable (table : Name)

lemma sheetPool_means {want : Want} {sql : Text} {command : Command} (args : List Value)
    (h : Means table sql command) :
    sheetPool table ⟨want, sql, args⟩ = sheetAnswer want (some command) args := by
  rw [sheetPool, commandOf?_of_means h]

def sheetTable : SqlTable (sheetPool table) table where
  ready rows := ∃ keys, TextKeyed rows keys
  row rows key := rows.get? (.text key)
  order := Before
  stores := by
    rintro rows sql key document ⟨keys, hkeyed⟩ hmeans - -
    rw [sheetPool_means table _ hmeans]
    refine ⟨_, _, rfl, ⟨_, textKeyed_insert hkeyed document⟩, ?_⟩
    funext other
    rw [Bindings.get?_insert_text, Function.update_apply]
    simp only [eq_comm]
  deletes := by
    rintro rows sql key ⟨keys, hkeyed⟩ hmeans -
    rw [sheetPool_means table _ hmeans]
    refine ⟨_, _, rfl, ⟨_, textKeyed_erase hkeyed⟩, ?_⟩
    funext other
    rw [Bindings.get?_erase_text, Function.update_apply]
    simp only [eq_comm]
  truncates := by
    intro rows sql _ hmeans
    rw [sheetPool_means table _ hmeans]
    exact ⟨_, _, rfl, ⟨[], rfl, .nil⟩, rfl⟩
  finds := by
    rintro rows sql key hready hmeans -
    rw [sheetPool_means table _ hmeans]
    refine ⟨_, _, rfl, hready, rfl, ?_⟩
    cases hrow : rows.get? (.text key) with
    | none => rfl
    | some document => exact ⟨_, rfl, rfl⟩
  lists := by
    rintro rows sql pattern ⟨keys, hkeyed⟩ hmeans - -
    rw [sheetPool_means table _ hmeans]
    have hsorted := sort_pairwise_before (hkeyed.nodup.filter (like pattern))
    refine ⟨_, _, Text.sort (keys.filter (like pattern)), rfl, ⟨keys, hkeyed⟩, rfl, ?_, hsorted,
      hsorted.imp fun hst => hst.2, ?_⟩
    · rw [filterMap_text?_keys hkeyed.keys, List.forall₂_map_left_iff, List.forall₂_same]
      exact fun key _ => ⟨_, rfl, rfl⟩
    · intro key
      rw [Text.sort, List.mem_mergeSort, List.mem_filter, like_iff, get?_isSome_iff hkeyed.keys,
        and_comm]

end

/-- A percent sign in a beginning stands for itself, and what was stored before a table is truncated is
gone. -/
theorem percent_sign_stands_for_itself :
    let r : Record := ⟨"wrapped", "ciphertext", "id", .int 1, rfl⟩
    let tasks : List TableTask :=
      [.on (.set "a%c" r), .truncate, .on (.set "a%b" r), .on (.set "axb" r)]
    let task : TableTask := .on (.list "a%")
    ∃ keys : List Text,
      ((task.inTable (sheetPool .standard) .standard).result
          (afterAll (·.inTable (sheetPool .standard) .standard) [] tasks)).1 =
            .ok (.keys (keys.map .text)) ∧
        ∀ key, key ∈ keys ↔ key = "a%b" := by
  intro r tasks task
  have hplain : ∀ s : String, ¬HasPair s := fun s =>
    not_hasPair_of_surrogateFree (surrogateFree_ofString s)
  have hr : r.Unpaired := ⟨hplain _, hplain _, hplain _⟩
  have htasks : ∀ task ∈ tasks, task.Names Storable := by
    have hfirst : Storable "a%c" := by decide
    have hsecond : Storable "a%b" := by decide
    have hthird : Storable "axb" := by decide
    simp [tasks, TableTask.Names, StoreTask.Names, hfirst, hsecond, hthird, hr]
  have htask : task.Names Storable := (by decide : Storable "a%")
  have hready : (sheetTable .standard).ready [] := ⟨[], rfl, .nil⟩
  obtain ⟨answer, answer', hrun, -, hanswers, -⟩ :=
    table_is_a_map (sheetTable .standard) hready (fun _ => rfl) htasks htask
  cases hanswers with
  | list _ keys _ _ hmem =>
    refine ⟨keys, hrun, ?_⟩
    intro key
    rw [hmem]
    constructor
    · rintro ⟨hstart, hkept⟩
      by_contra hne
      by_cases hother : key = "axb"
      · subst hother
        exact absurd hstart (by decide)
      · simp [tasks, Contents.nextInTable, Contents.next, Contents.empty, hne,
          hother] at hkept
    · rintro rfl
      exact ⟨by decide, rfl⟩

end EnvelopeStore.Proofs
