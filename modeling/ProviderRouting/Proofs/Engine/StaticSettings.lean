import ProviderRouting.Proofs.Engine.KnownKeys

/-!
# Limits and priorities across configurations

Every configuration may say something about a key's limits and about its priority.  What is said
later is laid over what was said before, within one configuration and from one to the next.  The
limits of a key are thus those of the last configuration that declares any for it, and so is its
priority: a configuration that is silent about a key takes nothing back.
-/

namespace ProviderRouting

/-! ## Statements about a key -/

namespace StaticSettings

variable {earlier later : StaticSettings} {statements : List StaticSettings}

def laidOver (later earlier : StaticSettings) : StaticSettings :=
  ⟨later.limits.or earlier.limits, later.priorityTier.or earlier.priorityTier⟩

/-- What the last of some statements says that says something at all, about the limits and about
the priority. -/
def lastOf (statements : List StaticSettings) : StaticSettings :=
  ⟨(statements.filterMap limits).getLast?, (statements.filterMap priorityTier).getLast?⟩

theorem nothing_laidOver (earlier : StaticSettings) : laidOver {} earlier = earlier := by
  simp [laidOver]

theorem laidOver_nothing (later : StaticSettings) : later.laidOver {} = later := by
  simp [laidOver]

theorem laidOver_laidOver_self (later earlier : StaticSettings) :
    later.laidOver (later.laidOver earlier) = later.laidOver earlier := by
  cases hlimits : later.limits <;> cases htier : later.priorityTier <;>
    simp [laidOver, hlimits, htier]

theorem getLast?_append_toList {Value : Type} (values : List Value) (last : Option Value) :
    (values ++ last.toList).getLast? = last.or values.getLast? := by
  cases last <;> simp

theorem lastOf_append_singleton (statements : List StaticSettings) (last : StaticSettings) :
    lastOf (statements ++ [last]) = last.laidOver (lastOf statements) := by
  have hsingleton {Value : Type} (field : StaticSettings → Option Value) :
      [last].filterMap field = (field last).toList := by
    cases hfield : field last <;> simp [hfield]
  simp only [lastOf, laidOver, List.filterMap_append, hsingleton, getLast?_append_toList]

/-- Laying statements over each other one by one keeps what the last of them say. -/
theorem foldl_laidOver (statements : List StaticSettings) (earlier : StaticSettings) :
    statements.foldl (fun earlier later => later.laidOver earlier) earlier =
      (lastOf statements).laidOver earlier := by
  induction statements using List.reverseRecOn with
  | nil => exact (nothing_laidOver earlier).symm
  | append_singleton statements last ih =>
      rw [List.foldl_append, List.foldl_cons, List.foldl_nil, ih, lastOf_append_singleton]
      simp only [laidOver, Option.or_assoc]

end StaticSettings

def TierTarget.statics (group : TierTarget) : StaticSettings :=
  ⟨group.limits, group.priorityTier⟩

/-- What a configuration says about a key.  Of the targets that list the key, the last one that
declares limits counts for these, and the last one that declares a priority for that. -/
def Configuration.statics (config : Configuration) (key : ProviderKey) : StaticSettings :=
  .lastOf (((Routes.groups config).filter fun group => group.keys.contains key).map
    TierTarget.statics)

namespace Routes

variable {config : Configuration} {key : ProviderKey}

/-- What compiled settings say about a key; of a key that is not among them, nothing. -/
def said (settings : Table ProviderKey StaticSettings) (key : ProviderKey) : StaticSettings :=
  (settings.get? key).getD {}

theorem said_addSettings (group : TierTarget) (settings : Table ProviderKey StaticSettings)
    (added : ProviderKey) :
    said (addSettings group settings added) key =
      if key = added then group.statics.laidOver (said settings key) else said settings key := by
  rw [addSettings]
  split
  · rw [said, Table.get?_insert]
    split
    · next hkey => subst hkey; rfl
    · rfl
  · next hsilent =>
      have hstatics : group.statics = {} := by
        simpa [TierTarget.statics] using hsilent
      rw [hstatics, StaticSettings.nothing_laidOver, ite_self]

/-- A target's statement is laid over what is said about each of its keys. -/
theorem said_addSettings_all (group : TierTarget) (keys : List ProviderKey)
    (settings : Table ProviderKey StaticSettings) :
    said (keys.foldl (addSettings group) settings) key =
      if keys.contains key then group.statics.laidOver (said settings key)
      else said settings key := by
  induction keys generalizing settings with
  | nil => rfl
  | cons head rest ih =>
      rw [List.foldl_cons, ih, said_addSettings, List.contains_cons]
      by_cases hkey : key = head
      · subst hkey
        simp [StaticSettings.laidOver_laidOver_self]
      · simp [hkey]

/-- Compiling keeps what the configuration says about each key. -/
theorem said_settingsOf (config : Configuration) (key : ProviderKey) :
    said (settingsOf config) key = config.statics key := by
  have hgroups (groups : List TierTarget) (settings : Table ProviderKey StaticSettings) :
      said (groups.foldl (fun settings group => group.keys.foldl (addSettings group) settings)
        settings) key =
        ((groups.filter fun group => group.keys.contains key).map TierTarget.statics).foldl
          (fun earlier later => later.laidOver earlier) (said settings key) := by
    induction groups generalizing settings with
    | nil => rfl
    | cons group rest ih =>
        rw [List.foldl_cons, ih, said_addSettings_all, List.filter_cons]
        split <;> rfl
  rw [settingsOf, hgroups, StaticSettings.foldl_laidOver, Configuration.statics]
  exact StaticSettings.laidOver_nothing _

end Routes

/-! ## Entries and ledgers -/

theorem QuotaLedger.entry_applySettings (ledger : QuotaLedger)
    (settings : Table ProviderKey StaticSettings) (key : ProviderKey) :
    (Engine.applySettings ledger settings).entry key =
      (ledger.entry key).withStatic (Routes.said settings key).limits
        (Routes.said settings key).priorityTier := by
  rw [entry, get?_applySettings, Routes.said]
  cases settings.get? key <;> rfl

/-- The entry has the limits and the priority that were stated, or none and the standard one. -/
structure QuotaEntry.Obeys (entry : QuotaEntry) (statics : StaticSettings) : Prop where
  limits : entry.limits = statics.limits.getD {}
  priorityTier : entry.priorityTier = statics.priorityTier.getD standardTier

namespace QuotaEntry.Obeys

variable {entry : QuotaEntry} {statics : StaticSettings} {settings : QuotaSettings}

theorem default : ({} : QuotaEntry).Obeys {} :=
  ⟨rfl, rfl⟩

theorem withStatic (hobeys : entry.Obeys statics) (later : StaticSettings) :
    (entry.withStatic later.limits later.priorityTier).Obeys (later.laidOver statics) where
  limits := by
    rw [QuotaEntry.withStatic, StaticSettings.laidOver, hobeys.limits]
    cases later.limits <;> rfl
  priorityTier := by
    rw [QuotaEntry.withStatic, StaticSettings.laidOver, hobeys.priorityTier]
    cases later.priorityTier <;> rfl

theorem escalate (hobeys : entry.Obeys statics) (settings : QuotaSettings)
    (errorClass : ErrorClass) (retryAfter : Option Millis) (now : Millis) :
    (entry.escalate settings errorClass retryAfter now).Obeys statics := by
  rw [QuotaEntry.escalate]
  split <;> exact ⟨hobeys.limits, hobeys.priorityTier⟩

theorem afterError (hobeys : entry.Obeys statics) (event : ErrorEvent) :
    (entry.afterError settings event).Obeys statics := by
  let counted := (entry.asOf event.time settings.usageWindow).countError settings
    event.errorClass event.time
  have hcounted : counted.Obeys statics := ⟨hobeys.limits, hobeys.priorityTier⟩
  have hblocked := hcounted.escalate settings event.errorClass event.retryAfter event.time
  exact ⟨hblocked.limits, hblocked.priorityTier⟩

end QuotaEntry.Obeys

def QuotaLedger.Obeys (ledger : QuotaLedger) (statics : ProviderKey → StaticSettings) : Prop :=
  ∀ key, (ledger.entry key).Obeys (statics key)

namespace QuotaLedger.Obeys

variable {ledger : QuotaLedger} {statics : ProviderKey → StaticSettings} {key : ProviderKey}

theorem store (hobeys : ledger.Obeys statics) {entry : QuotaEntry}
    (hentry : entry.Obeys (statics key)) : (ledger.store key entry).Obeys statics := by
  intro probe
  rw [QuotaLedger.entry_store]
  split
  · next hprobe => exact hprobe ▸ hentry
  · exact hobeys probe

theorem clear (hobeys : ledger.Obeys statics) (key : ProviderKey) (now : Millis) :
    (ledger.clear key now).2.Obeys statics := by
  have hkey := hobeys key
  rw [QuotaLedger.entry] at hkey
  rw [QuotaLedger.clear]
  cases hentry : ledger.entries.get? key with
  | none => exact hobeys
  | some entry =>
      rw [hentry] at hkey
      exact hobeys.store ⟨hkey.limits, hkey.priorityTier⟩

/-- Settings that are put into a ledger are laid over what was stated before. -/
theorem applySettings (hobeys : ledger.Obeys statics)
    (settings : Table ProviderKey StaticSettings) :
    (Engine.applySettings ledger settings).Obeys fun key =>
      (Routes.said settings key).laidOver (statics key) := by
  intro key
  rw [QuotaLedger.entry_applySettings]
  exact (hobeys key).withStatic _

end QuotaLedger.Obeys

/-! ## Engines -/

/-- The call neither publishes a configuration nor restores a snapshot, in which limits and
priorities stand too. -/
def EngineCall.LeavesStatics : EngineCall → Prop
  | .publish _ => False
  | .restore _ => False
  | _ => True

namespace Engine

variable {engine after : Engine} {config : Configuration} {configs : List Configuration}
  {key : ProviderKey} {now : Millis} {call : EngineCall}

/-- The engines that can come to be without restoring snapshots, each with all configurations that
were published, the first one first. -/
inductive ReachableThrough : List Configuration → Engine → Prop where
  | built {config : Configuration} {engine : Engine}
      (built : ofConfiguration config = .ok engine) : ReachableThrough [config] engine
  | counting {configs : List Configuration} {engine : Engine} {digest : String → UInt64}
      (reachable : ReachableThrough configs engine) :
      ReachableThrough configs (engine.counting digest)
  | groupedBy {configs : List Configuration} {engine : Engine}
      (reachable : ReachableThrough configs engine) (group : ProviderKey → String) :
      ReachableThrough configs (engine.groupedBy group)
  | published {configs : List Configuration} {engine after : Engine} {config : Configuration}
      (reachable : ReachableThrough configs engine) (publish : engine.publish config = .ok after) :
      ReachableThrough (configs ++ [config]) after
  | called {configs : List Configuration} {engine : Engine}
      (reachable : ReachableThrough configs engine) (now : Millis) (call : EngineCall)
      (leaves : call.LeavesStatics) : ReachableThrough configs (engine.perform now call)

/-- What some configurations, published one after the other, say about a key in the end. -/
def lastStatics (configs : List Configuration) (key : ProviderKey) : StaticSettings :=
  .lastOf (configs.map (·.statics key))

theorem lastStatics_append_singleton (configs : List Configuration) (config : Configuration)
    (key : ProviderKey) :
    lastStatics (configs ++ [config]) key =
      (config.statics key).laidOver (lastStatics configs key) := by
  rw [lastStatics, List.map_append, List.map_singleton, StaticSettings.lastOf_append_singleton]
  rfl

theorem publish_obeys (hobeys : engine.quota.Obeys (lastStatics configs))
    (hpublish : engine.publish config = .ok after) :
    after.quota.Obeys (lastStatics (configs ++ [config])) := by
  obtain ⟨routes, series, hcompiled, -, rfl⟩ := publish_ok hpublish
  have hsettings : routes.settings = Routes.settingsOf config := by
    rw [(Routes.ofConfiguration_ok hcompiled).2]
  have hinitial : ({ engine.quota with settings := config.quota } : QuotaLedger).Obeys
      (lastStatics configs) := hobeys
  intro key
  rw [lastStatics_append_singleton, ← Routes.said_settingsOf, ← hsettings]
  exact hinitial.applySettings routes.settings key

/-- Nothing that happens to a key changes its limits or its priority. -/
theorem perform_obeys {statics : ProviderKey → StaticSettings}
    (hobeys : engine.quota.Obeys statics) (now : Millis) (hleaves : call.LeavesStatics) :
    (engine.perform now call).quota.Obeys statics := by
  have hsame {entry : QuotaEntry} {probe : ProviderKey}
      (hlimits : entry.limits = (engine.quota.entry probe).limits)
      (htier : entry.priorityTier = (engine.quota.entry probe).priorityTier) :
      (engine.quota.store probe entry).Obeys statics :=
    hobeys.store ⟨hlimits.trans (hobeys probe).limits, htier.trans (hobeys probe).priorityTier⟩
  cases call with
  | publish next => exact hleaves.elim
  | restore snapshot => exact hleaves.elim
  | select route request =>
      rw [(select_sameRecords engine now route request).quota]
      exact hobeys
  | reportError event session => exact hobeys.store ((hobeys event.key).afterError event)
  | reportSuccess event => exact hsame rfl rfl
  | reportUsage key tokens => exact hsame rfl rfl
  | reportQuota report => exact hsame rfl rfl
  | forgive key =>
      rw [perform, forgive_quota]
      exact hobeys.clear key now
  | snapshot => exact hobeys

theorem ReachableThrough.obeys (hreachable : ReachableThrough configs engine) :
    engine.quota.Obeys (lastStatics configs) := by
  induction hreachable with
  | @built config engine hbuilt =>
      obtain ⟨series, -, hpublish⟩ := bind_eq_ok_iff.mp hbuilt
      have hinitial : ({ settings := config.quota } : QuotaLedger).Obeys (lastStatics []) :=
        fun _ => .default
      exact publish_obeys hinitial hpublish
  | counting _ ih => exact ih
  | groupedBy _ group ih => exact ih
  | published _ hpublish ih => exact publish_obeys ih hpublish
  | called _ now call hleaves ih => exact perform_obeys ih now hleaves

/-- Without restored snapshots, a key has the limits that the last published configuration to
declare any for it declares, and likewise its priority.  Without such a configuration it has no
limits and the standard priority. -/
theorem statics_eq_lastDeclared (hreachable : ReachableThrough configs engine)
    (key : ProviderKey) (now : Millis) :
    (engine.entryAt key now).limits =
        ((configs.filterMap fun config => (config.statics key).limits).getLast?).getD {} ∧
      (engine.entryAt key now).priorityTier =
        ((configs.filterMap fun config => (config.statics key).priorityTier).getLast?).getD
          standardTier := by
  obtain ⟨hlimits, htier⟩ := hreachable.obeys key
  simp only [lastStatics, StaticSettings.lastOf, List.filterMap_map, Function.comp_def]
    at hlimits htier
  exact ⟨hlimits, htier⟩

/-! ## A configuration that takes its limits back -/

/-- The key of `twoAliases` that is asked first, with limits and a priority of its own. -/
def limitedAlias : Configuration :=
  chat [{
    provider := "north"
    model := "large"
    aliases := ["a"]
    limits := some { requests := some 1 }
    priorityTier := some 5 }] {}

theorem limitedAlias_valid : limitedAlias.validate = .ok () := by
  refine chat_valid rfl rfl ?_
  simp [Configuration.ensureTarget, Configuration.ensureAliases, Configuration.ensureIdentifier]
  rfl

/-- An engine with limits for a key publishes a configuration that declares none. -/
theorem exists_published_twoAliases :
    ∃ engine, ReachableThrough [limitedAlias, twoAliases] engine := by
  obtain ⟨engine, hbuilt⟩ := exists_ofConfiguration limitedAlias_valid
  obtain ⟨after, hpublish⟩ := engine.exists_publish twoAliases_valid
  exact ⟨after, (ReachableThrough.built hbuilt).published hpublish⟩

/-- The limits outlive the configuration that declared them. -/
theorem statics_eq_lastDeclared_of_silent :
    ∃ engine, ReachableThrough [limitedAlias, twoAliases] engine ∧
      (engine.entryAt ⟨"north", "a", "large"⟩ 0).limits = { requests := some 1 } ∧
        (engine.entryAt ⟨"north", "a", "large"⟩ 0).priorityTier = 5 := by
  obtain ⟨engine, hreachable⟩ := exists_published_twoAliases
  obtain ⟨hlimits, htier⟩ := statics_eq_lastDeclared hreachable ⟨"north", "a", "large"⟩ 0
  exact ⟨engine, hreachable, hlimits.trans (by decide +kernel), htier.trans (by decide +kernel)⟩

/-- Publishing a configuration without limits for a key does not make the key unlimited. -/
theorem not_forall_statics_eq_declared :
    ¬ ∀ configs config engine, ReachableThrough (configs ++ [config]) engine →
      ∀ key, Routes.Declares config key → ∀ now,
        (engine.entryAt key now).limits = (config.statics key).limits.getD {} ∧
          (engine.entryAt key now).priorityTier =
            (config.statics key).priorityTier.getD standardTier := by
  intro hall
  obtain ⟨engine, hreachable⟩ := exists_published_twoAliases
  let key : ProviderKey := ⟨"north", "a", "large"⟩
  have hdeclared : Routes.Declares twoAliases key :=
    ⟨{ provider := "north", model := "large", aliases := ["a", "b"] }, by decide +kernel,
      by decide +kernel⟩
  obtain ⟨hlimits, -⟩ := hall [limitedAlias] twoAliases engine hreachable key hdeclared 0
  have hobeyed := (hreachable.obeys key).limits
  have hkept : ((lastStatics [limitedAlias, twoAliases] key).limits.getD {}) ≠
      (twoAliases.statics key).limits.getD {} := by
    decide +kernel
  exact hkept (hobeyed.symm.trans hlimits)

end Engine

end ProviderRouting
