import EnvelopeStore.Proofs.Actions
import EnvelopeStore.Proofs.Numerals
import EnvelopeStore.Proofs.Pairs
import EnvelopeStore.Settings
import Mathlib.Data.List.Nodup

/-!
# Loaded settings

What is loaded from variables with texts depends on what those of them hold that are not empty.
Either the variables are refused, or the settings are fit for a client, and nothing changes when
they are loaded again from variables that hold what they are.
-/

namespace EnvelopeStore.Proofs
open Settings

/-! ### Variables -/

/-- Variables with texts, each variable once. -/
structure TextVariables where
  pairs : List (Text × Text)
  nodup : (pairs.map Prod.fst).Nodup

namespace TextVariables

/-- The environment in which the variables are set. -/
def environment (vars : TextVariables) : Environment :=
  vars.pairs.map fun (name, t) => (name, .text t)

/-- The variables that are not empty. -/
def withoutEmpty (vars : TextVariables) : TextVariables where
  pairs := vars.pairs.filter fun (_, t) => t ≠ []
  nodup := vars.nodup.sublist (List.filter_sublist.map Prod.fst)

/-- What a variable holds, if it is not empty. -/
def given? (vars : TextVariables) (name : Text) : Option Text :=
  (vars.pairs.lookup name).filter (· ≠ [])

end TextVariables

section

variable {vars vars' : TextVariables} {name : Text} {default : Value}

lemma given?_ne_empty : vars.given? name ≠ some [] := by
  intro h
  simpa using (Option.filter_eq_some_iff.mp h).2

lemma given?_withoutEmpty : vars.withoutEmpty.given? name = vars.given? name := by
  have hkept : vars.withoutEmpty.pairs =
      vars.pairs.filterMap (withSecond fun t => (some t).filter (· ≠ [])) := by
    rw [TextVariables.withoutEmpty]
    change vars.pairs.filter _ = _
    rw [← List.filterMap_eq_filter]
    refine List.filterMap_congr ?_
    rintro ⟨other, t⟩ -
    cases t <;> rfl
  rw [TextVariables.given?, hkept, lookup_filterMap vars.nodup, TextVariables.given?]
  cases vars.pairs.lookup name with
  | none => rfl
  | some t => cases t <;> rfl

lemma get?_environment :
    Fields.get? vars.environment name = (vars.pairs.lookup name).map .text := by
  rw [Fields.get?, TextVariables.environment]
  induction vars.pairs with
  | nil => rfl
  | cons pair rest ih =>
    rw [List.map_cons, List.lookup_cons, List.lookup_cons]
    cases name == pair.1 with
    | true => rfl
    | false => exact ih

lemma given_environment :
    vars.environment.given name default = ((vars.given? name).map .text).getD default := by
  rw [Environment.given, Fields.getD, get?_environment, TextVariables.given?]
  cases vars.pairs.lookup name with
  | none => rfl
  | some t => cases t <;> rfl

lemma stripped_environment : stripped (Fields.getD vars.environment name (.text [])) =
    .ok (.text (((vars.given? name).getD []).strip Text.isBlank)) := by
  rw [Fields.getD, get?_environment, TextVariables.given?]
  cases vars.pairs.lookup name with
  | none => rfl
  | some t => cases t <;> rfl

lemma ofEnvironment_congr (h : ∀ name, vars.given? name = vars'.given? name) :
    ofEnvironment vars.environment = ofEnvironment vars'.environment := by
  simp only [ofEnvironment, positive, stripped_environment, given_environment, h]

end

/-! ### Limits -/

/-- What a limit is: that of the variable, or the standard one if the variable holds nothing. -/
inductive Limit (vars : TextVariables) (name : Text) (standard : Int) : Int → Prop
  | standard (h : vars.given? name = none) : Limit vars name standard standard
  | given (t : Text) (n : Int) (h : vars.given? name = some t) (hread : Text.integer? t = some n)
      (hpos : 0 < n) : Limit vars name standard n

section

variable {vars : TextVariables} {name : Text} {standard n : Int}

lemma Limit.pos (h : Limit vars name standard n) (hstandard : 0 < standard) : 0 < n := by
  cases h with
  | standard => exact hstandard
  | given t n _ _ hpos => exact hpos

lemma positive_of_integer {env : Environment}
    (h : integer name (env.given name (.int standard)) = .ok n) :
    positive env name standard =
      if n ≤ 0 then .error (.config (.notPositive name n)) else .ok n := by
  rw [positive, h]
  change (if n ≤ 0 then throw (Failure.config (.notPositive name n)) >>= fun (_ : Unit) => pure n
    else pure n) = _
  split <;> rfl

lemma integer_of_given {t : Text} (h : vars.given? name = some t)
    (hread : Text.integer? t = some n) :
    integer name (vars.environment.given name (.int standard)) = .ok n := by
  rw [given_environment, h]
  simp [integer, hread]

lemma positive_of_limit (h : Limit vars name standard n) (hstandard : 0 < standard) :
    positive vars.environment name standard = .ok n := by
  have hinteger : integer name (vars.environment.given name (.int standard)) = .ok n := by
    cases h with
    | standard hnone =>
      rw [given_environment, hnone]
      rfl
    | given t n ht hread _ => exact integer_of_given ht hread
  rw [positive_of_integer hinteger, if_neg (not_le.mpr (h.pos hstandard))]

/-- A limit is found, or the variable is at fault. -/
lemma positive_cases (vars : TextVariables) (name : Text) (standard : Int) :
    (∃ fault, positive vars.environment name standard = .error (.config fault)) ∨
      ∃ n, Limit vars name standard n := by
  cases hgiven : vars.given? name with
  | none => exact .inr ⟨standard, .standard hgiven⟩
  | some t =>
    cases hread : Text.integer? t with
    | none =>
      refine .inl ⟨.notInteger name (.text t), ?_⟩
      rw [positive, given_environment, hgiven]
      simp only [Option.map_some, Option.getD_some, integer, hread]
      rfl
    | some n =>
      by_cases hpos : 0 < n
      · exact .inr ⟨n, .given t n hgiven hread hpos⟩
      · refine .inl ⟨.notPositive name n, ?_⟩
        rw [positive_of_integer (integer_of_given hgiven hread), if_pos (not_lt.mp hpos)]

end

/-! ### Loading -/

namespace TextVariables

def account (vars : TextVariables) : Text :=
  ((vars.given? "PRIVATEKV_ACCOUNT_ID").getD []).strip Text.isBlank

def setting (vars : TextVariables) (name : Text) (standard : Option Text) : Value :=
  .ofOption (((vars.given? name).or standard).map .text)

def settings (vars : TextVariables) (limits : KeyManager.ResourceLimits) : Settings where
  accountId := .text vars.account
  area := vars.setting "PRIVATEKV_NAMESPACE" (some Client.defaultArea)
  groupSuffix := vars.setting "PRIVATEKV_GROUP_SUFFIX" (some Client.defaultGroupSuffix)
  serviceUrl := vars.setting "FASTKV_API_URL" none
  serviceContract := vars.setting "FASTKV_CONTRACT_ID" (some Service.defaultContract)
  network := vars.setting "OUTLAYER_NETWORK" (some "mainnet")
  networkContract := vars.setting "OUTLAYER_CONTRACT_ID" none
  resourceLimits := limits
  databaseUrl := vars.setting "DATABASE_URL" none

end TextVariables

def standardLimits : KeyManager.ResourceLimits := {}

/-- Variables name an account, and limits are theirs. -/
structure Loadable (vars : TextVariables) (limits : KeyManager.ResourceLimits) : Prop where
  account : vars.account ≠ []
  maxInstructions : Limit vars "OUTLAYER_MAX_INSTRUCTIONS" standardLimits.maxInstructions
    limits.maxInstructions
  maxMemoryMb : Limit vars "OUTLAYER_MAX_MEMORY_MB" standardLimits.maxMemoryMb limits.maxMemoryMb
  maxExecutionSeconds : Limit vars "OUTLAYER_MAX_EXECUTION_SECONDS"
    standardLimits.maxExecutionSeconds limits.maxExecutionSeconds

section

variable {vars : TextVariables} {limits : KeyManager.ResourceLimits} {name t : Text}

lemma given_text : vars.environment.given name (.text t) = vars.setting name (some t) := by
  rw [given_environment, TextVariables.setting]
  cases vars.given? name <;> rfl

lemma given_null : vars.environment.given name .null = vars.setting name none := by
  rw [given_environment, TextVariables.setting]
  cases vars.given? name <;> rfl

lemma ofEnvironment_of_account (h : vars.account ≠ []) : ofEnvironment vars.environment = do
    let maxInstructions ←
      positive vars.environment "OUTLAYER_MAX_INSTRUCTIONS" standardLimits.maxInstructions
    let maxMemoryMb ← positive vars.environment "OUTLAYER_MAX_MEMORY_MB" standardLimits.maxMemoryMb
    let maxExecutionSeconds ←
      positive vars.environment "OUTLAYER_MAX_EXECUTION_SECONDS" standardLimits.maxExecutionSeconds
    return vars.settings ⟨maxInstructions, maxMemoryMb, maxExecutionSeconds⟩ := by
  have hgiven : (Value.text vars.account).isGiven = true := by
    simp [Value.isGiven, h]
  rw [ofEnvironment, stripped_environment]
  change (if (!(Value.text vars.account).isGiven) = true then _ else _) = _
  rw [hgiven, if_neg (by decide)]
  simp only [given_text, given_null]
  rfl

lemma ofEnvironment_of_loadable (h : Loadable vars limits) :
    ofEnvironment vars.environment = .ok (vars.settings limits) := by
  rw [ofEnvironment_of_account h.account, positive_of_limit h.maxInstructions (by decide),
    positive_of_limit h.maxMemoryMb (by decide),
    positive_of_limit h.maxExecutionSeconds (by decide)]
  rfl

/-- Variables are refused, or settings can be loaded from them. -/
lemma ofEnvironment_cases (vars : TextVariables) :
    (∃ fault, ofEnvironment vars.environment = .error (.config fault)) ∨
      ∃ limits, Loadable vars limits := by
  by_cases haccount : vars.account = []
  · refine .inl ⟨.accountMissing, ?_⟩
    rw [ofEnvironment, stripped_environment, ← TextVariables.account, haccount]
    rfl
  · rw [ofEnvironment_of_account haccount]
    obtain ⟨fault, hfault⟩ | ⟨maxInstructions, hinstructions⟩ := positive_cases vars
      "OUTLAYER_MAX_INSTRUCTIONS" standardLimits.maxInstructions
    · rw [hfault]
      exact .inl ⟨fault, rfl⟩
    obtain ⟨fault, hfault⟩ | ⟨maxMemoryMb, hmemory⟩ := positive_cases vars
      "OUTLAYER_MAX_MEMORY_MB" standardLimits.maxMemoryMb
    · rw [positive_of_limit hinstructions (by decide), hfault]
      exact .inl ⟨fault, rfl⟩
    obtain ⟨fault, hfault⟩ | ⟨maxExecutionSeconds, hseconds⟩ := positive_cases vars
      "OUTLAYER_MAX_EXECUTION_SECONDS" standardLimits.maxExecutionSeconds
    · rw [positive_of_limit hinstructions (by decide), positive_of_limit hmemory (by decide),
        hfault]
      exact .inl ⟨fault, rfl⟩
    exact .inr ⟨⟨maxInstructions, maxMemoryMb, maxExecutionSeconds⟩, haccount, hinstructions,
      hmemory, hseconds⟩

lemma setting_eq_text (vars : TextVariables) (name : Text) {standard : Text}
    (hstandard : standard ≠ []) : ∃ t, t ≠ [] ∧ vars.setting name (some standard) = .text t := by
  rw [TextVariables.setting]
  cases h : vars.given? name with
  | none => exact ⟨standard, hstandard, rfl⟩
  | some t =>
    refine ⟨t, ?_, rfl⟩
    rintro rfl
    exact given?_ne_empty h

lemma nameOf_text (t : Text) : Client.nameOf (.text t) = t := by
  cases t <;> rfl

lemma client_of_loadable (h : Loadable vars limits) :
    ∃ client, (vars.settings limits).client = .ok client := by
  have harea : Client.defaultArea ≠ [] := by decide
  have hsuffix : Client.defaultGroupSuffix ≠ [] := by decide
  obtain ⟨area, harea, hareaText⟩ := setting_eq_text vars "PRIVATEKV_NAMESPACE" harea
  obtain ⟨suffix, hsuffix, hsuffixText⟩ := setting_eq_text vars "PRIVATEKV_GROUP_SUFFIX" hsuffix
  refine ⟨⟨vars.account, area, suffix, h.account, harea, hsuffix⟩, ?_⟩
  simp only [Settings.client, TextVariables.settings, Client.ofValues, hareaText, hsuffixText,
    nameOf_text, Client.make, dif_neg h.account, dif_neg harea, dif_neg hsuffix]

end

/-! ### Reloading -/

/-- Under the name of its variable, the text that each setting is, if it is one, and each limit in
decimal digits. -/
def slots (s : Settings) : List (Text × Option Text) := [
  ("PRIVATEKV_ACCOUNT_ID", s.accountId.text?),
  ("PRIVATEKV_NAMESPACE", s.area.text?),
  ("PRIVATEKV_GROUP_SUFFIX", s.groupSuffix.text?),
  ("FASTKV_API_URL", s.serviceUrl.text?),
  ("FASTKV_CONTRACT_ID", s.serviceContract.text?),
  ("OUTLAYER_NETWORK", s.network.text?),
  ("OUTLAYER_CONTRACT_ID", s.networkContract.text?),
  ("OUTLAYER_MAX_INSTRUCTIONS", some (Text.ofInt s.resourceLimits.maxInstructions)),
  ("OUTLAYER_MAX_MEMORY_MB", some (Text.ofInt s.resourceLimits.maxMemoryMb)),
  ("OUTLAYER_MAX_EXECUTION_SECONDS", some (Text.ofInt s.resourceLimits.maxExecutionSeconds)),
  ("DATABASE_URL", s.databaseUrl.text?)]

lemma ofString_injective : Function.Injective Text.ofString := by
  intro s t h
  have hchars : Function.Injective CodePoint.ofChar := fun _ _ => CodePoint.ofChar_injective
  exact String.toList_inj.mp (hchars.list_map h)

-- The names are compared as strings: as texts they take long to tell apart.
lemma nodup_slots (s : Settings) : ((slots s).map Prod.fst).Nodup := by
  have hnames : (slots s).map Prod.fst = ["PRIVATEKV_ACCOUNT_ID", "PRIVATEKV_NAMESPACE",
    "PRIVATEKV_GROUP_SUFFIX", "FASTKV_API_URL", "FASTKV_CONTRACT_ID", "OUTLAYER_NETWORK",
    "OUTLAYER_CONTRACT_ID", "OUTLAYER_MAX_INSTRUCTIONS", "OUTLAYER_MAX_MEMORY_MB",
    "OUTLAYER_MAX_EXECUTION_SECONDS", "DATABASE_URL"].map Text.ofString := rfl
  rw [hnames]
  refine List.Nodup.map ofString_injective ?_
  decide

/-- The variables that hold what settings are. -/
def rendered (s : Settings) : TextVariables where
  pairs := (slots s).filterMap (withSecond id)
  nodup := (nodup_slots s).sublist (sublist_filterMap id (slots s))

section

variable {vars : TextVariables} {limits : KeyManager.ResourceLimits} {s : Settings} {name : Text}

lemma given?_rendered {held : Option Text} (h : (name, held) ∈ slots s) :
    (rendered s).given? name = held.filter (· ≠ []) := by
  rw [TextVariables.given?, rendered, lookup_filterMap (nodup_slots s),
    lookup_of_mem (nodup_slots s) h]
  rfl

lemma filter_of_ne_empty {held : Option Text} (h : held ≠ some []) :
    held.filter (· ≠ []) = held := by
  cases held with
  | none => rfl
  | some t =>
    rw [Option.filter_some_pos]
    exact decide_eq_true fun hnil => h (congrArg some hnil)

lemma text?_setting {standard : Option Text} :
    (vars.setting name standard).text? = (vars.given? name).or standard := by
  rw [TextVariables.setting]
  cases (vars.given? name).or standard <;> rfl

lemma account_rendered (limits : KeyManager.ResourceLimits) (h : vars.account ≠ []) :
    (rendered (vars.settings limits)).account = vars.account := by
  have hslot : (("PRIVATEKV_ACCOUNT_ID" : Text), some vars.account) ∈
      slots (vars.settings limits) := List.mem_cons_self
  rw [TextVariables.account, given?_rendered hslot,
    filter_of_ne_empty fun hnil => h (Option.some.inj hnil), Option.getD_some]
  exact strip_of_bare (bare_strip Text.isBlank _)

lemma setting_rendered {standard : Option Text} (hstandard : standard ≠ some [])
    (h : (name, (vars.setting name standard).text?) ∈ slots s) :
    (rendered s).setting name standard = vars.setting name standard := by
  rw [text?_setting] at h
  have hne : (vars.given? name).or standard ≠ some [] := by
    cases hgiven : vars.given? name with
    | none => exact hstandard
    | some t =>
      rw [Option.some_or, ← hgiven]
      exact given?_ne_empty
  rw [TextVariables.setting, given?_rendered h, filter_of_ne_empty hne, Option.or_assoc,
    Option.or_self, ← TextVariables.setting]

lemma limit_rendered {standard n : Int} (h : Limit vars name standard n)
    (hstandard : Text.integer? (Text.ofInt standard) = some standard) (hpos : 0 < standard)
    (hslot : (name, some (Text.ofInt n)) ∈ slots s) :
    Limit (rendered s) name standard n := by
  have hread : Text.integer? (Text.ofInt n) = some n := by
    cases h with
    | standard => exact hstandard
    | given t n _ hread _ => exact integer?_ofInt_of_integer? hread
  have hne : some (Text.ofInt n) ≠ some [] := by
    intro hnil
    rw [Option.some.inj hnil] at hread
    exact nomatch hread
  have hgiven := given?_rendered hslot
  rw [filter_of_ne_empty hne] at hgiven
  exact .given _ n hgiven hread (h.pos hpos)

lemma loadable_rendered (h : Loadable vars limits) :
    Loadable (rendered (vars.settings limits)) limits := by
  refine ⟨?_, limit_rendered h.maxInstructions (by decide) (by decide) ?_,
    limit_rendered h.maxMemoryMb (by decide) (by decide) ?_,
    limit_rendered h.maxExecutionSeconds (by decide) (by decide) ?_⟩
  · rw [account_rendered limits h.account]
    exact h.account
  all_goals simp [slots, TextVariables.settings]

lemma settings_rendered (h : Loadable vars limits) :
    (rendered (vars.settings limits)).settings limits = vars.settings limits := by
  refine (Settings.mk.injEq ..).mpr ⟨congrArg Value.text (account_rendered limits h.account),
    setting_rendered (by decide) ?_, setting_rendered (by decide) ?_,
    setting_rendered (by decide) ?_, setting_rendered (by decide) ?_,
    setting_rendered (by decide) ?_, setting_rendered (by decide) ?_, rfl,
    setting_rendered (by decide) ?_⟩
  all_goals simp [slots, TextVariables.settings]

end

/-- Variables may be empty or not there at all: what is loaded is the same. Those that name an account
and have limits give the settings that they call for. Any others are refused, as a fault of the
configuration. Settings make a client, none of their limits is below one, and variables that hold what
the settings are give the same settings again. -/
theorem loaded_settings_are_reloaded (vars : TextVariables) :
    ofEnvironment vars.withoutEmpty.environment = ofEnvironment vars.environment ∧
    (∀ limits, Loadable vars limits → ofEnvironment vars.environment = .ok (vars.settings limits)) ∧
    ((∃ fault, ofEnvironment vars.environment = .error (.config fault)) ∨
      ∃ s, ofEnvironment vars.environment = .ok s ∧
        (∃ limits, Loadable vars limits ∧ s = vars.settings limits) ∧
        (∃ client, s.client = .ok client) ∧
        1 ≤ s.resourceLimits.maxInstructions ∧ 1 ≤ s.resourceLimits.maxMemoryMb ∧
        1 ≤ s.resourceLimits.maxExecutionSeconds ∧
        ofEnvironment (rendered s).environment = .ok s) := by
  refine ⟨ofEnvironment_congr fun _ => given?_withoutEmpty, fun _ => ofEnvironment_of_loadable, ?_⟩
  obtain hrefused | ⟨limits, hlimits⟩ := ofEnvironment_cases vars
  · exact .inl hrefused
  · have hreload := ofEnvironment_of_loadable (loadable_rendered hlimits)
    rw [settings_rendered hlimits] at hreload
    exact .inr ⟨_, ofEnvironment_of_loadable hlimits, ⟨limits, hlimits, rfl⟩,
      client_of_loadable hlimits,
      hlimits.maxInstructions.pos (by decide), hlimits.maxMemoryMb.pos (by decide),
      hlimits.maxExecutionSeconds.pos (by decide), hreload⟩

-- The account loses its blanks and the limit its sign; what holds nothing stays away.
example :
    let shown : List (Text × Text) := [("PRIVATEKV_ACCOUNT_ID", "alice.near"),
      ("PRIVATEKV_NAMESPACE", "privatekv"), ("PRIVATEKV_GROUP_SUFFIX", "private"),
      ("FASTKV_CONTRACT_ID", "contextual.near"), ("OUTLAYER_NETWORK", "mainnet"),
      ("OUTLAYER_MAX_INSTRUCTIONS", "10000000000"), ("OUTLAYER_MAX_MEMORY_MB", "256"),
      ("OUTLAYER_MAX_EXECUTION_SECONDS", "60")]
    (ofEnvironment [("PRIVATEKV_ACCOUNT_ID", .text " alice.near\n"),
      ("OUTLAYER_MAX_MEMORY_MB", .text "+0_256"), ("DATABASE_URL", .text "")]).map
        (fun s => (rendered s).pairs) = .ok shown := rfl

end EnvelopeStore.Proofs
