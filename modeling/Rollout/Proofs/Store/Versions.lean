import Rollout.Proofs.App.Course
import Rollout.Proofs.Store.Agreement
import Rollout.UseCases

/-!
# Versions and targets

An app is in memory in several copies, which are read from its row, changed and written in any order (`Copies.perform`).
Target and version of an environment come together from a configuration that someone supplied, whichever copy they are
in, in its pending events or in the row (`Copies.Known`): an update to another target brings the version of the
configuration, and one to the same target keeps what was there (`EnvConfig.isFrom_consolidate`).

So if the configurations that are supplied for an environment have different versions for different targets, a version
of the environment tells its target, no matter when and where it is found (`versions_tell`).
-/

namespace Rollout

/-! ## Supplied configurations -/

namespace EnvConfig

variable {cs : List EnvConfig} {c c' previous : EnvConfig}

/-- Target and version are those of one of the configurations `cs`. -/
def IsFrom (cs : List EnvConfig) (c : EnvConfig) : Prop := ∃ s ∈ cs, s.target = c.target ∧ s.version = c.version

/-- Different targets come with different versions. -/
def Distinct (cs : List EnvConfig) : Prop := ∀ c ∈ cs, ∀ c' ∈ cs, c.target ≠ c'.target → c.version ≠ c'.version

theorem IsFrom.of_mem (h : c ∈ cs) : c.IsFrom cs := ⟨c, h, rfl, rfl⟩

theorem Distinct.target_eq (hd : Distinct cs) (h : c.IsFrom cs) (h' : c'.IsFrom cs) (hversion : c.version = c'.version) :
    c.target = c'.target := by
  obtain ⟨s, hs, htarget, hsversion⟩ := h
  obtain ⟨s', hs', htarget', hsversion'⟩ := h'
  by_contra hne
  refine hd s hs s' hs' (by rwa [htarget, htarget']) ?_
  rw [hsversion, hsversion', hversion]

/-- A consolidated configuration has the version of the one before or its own. -/
theorem isFrom_consolidate (h : c ∈ cs) (hprevious : previous.IsFrom cs) : (c.consolidate previous).IsFrom cs := by
  unfold consolidate
  split
  · next hsame =>
    obtain ⟨s, hs, htarget, hversion⟩ := hprevious
    exact ⟨s, hs, htarget.trans hsame.symm, hversion⟩
  · exact .of_mem h

theorem version_consolidate_of_target (h : (c.consolidate previous).target = previous.target) :
    (c.consolidate previous).version = previous.version := by
  unfold consolidate at h ⊢
  split
  · rfl
  · next hne =>
    rw [if_neg hne] at h
    exact absurd h hne

end EnvConfig

/-- The configuration that an operation supplies for an environment. -/
def AppOperation.config? (e : Environment) : AppOperation → Option EnvConfig
  | .updateEnvironment e' required => if e' = e then required.config else none
  | _ => none

/-- The configuration that an event gives an environment. -/
def AppEvent.config? (e : Environment) : AppEvent → Option EnvConfig
  | .created _ _ production staging _ => some (e.pick (production, staging))
  | .envChanged _ e' config => if e' = e then some config else none
  | _ => none

section Events

variable {cs : List EnvConfig} {k : AppId} {e : Environment} {event : AppEvent} {t t' : Tables}

theorem App.environment_apply (a : App) (hnew : event.founded = none) :
    (a.apply event).environment e = (event.config? e).getD (a.environment e) := by
  cases event with
  | created => cases hnew
  | envChanged _ e' _ => cases e' <;> cases e <;> rfl
  | versionControlConfigured | versionControlRemoved | cleanupRequested | deleted => cases e <;> rfl

theorem AppRow.slot_project (r : AppRow) (hnew : event.founded = none) :
    (r.project event).slot e = ((event.config? e).map SlotRow.ofConfig).getD (r.slot e) := by
  cases event with
  | created => cases hnew
  | envChanged _ e' _ => cases e' <;> cases e <;> rfl
  | versionControlConfigured | versionControlRemoved | cleanupRequested | deleted => cases e <;> rfl

namespace Tables

/-- Target and version of the environment in the row of the app, if there is one, are those of one of `cs`. -/
def KnowsRow (cs : List EnvConfig) (k : AppId) (e : Environment) (t : Tables) : Prop :=
  ∀ r, t.app? k = some r → ∃ c, r.slot e = .ofConfig c ∧ c.IsFrom cs

theorem KnowsRow.apply (h : t.KnowsRow cs k e) (hevent : event.id = k → ∀ c, event.config? e = some c → c.IsFrom cs)
    (happly : t.applyAppEvent event = .ok t') : t'.KnowsRow cs k e := by
  intro r hr
  by_cases hid : event.id = k
  · subst hid
    have hgiven := hevent rfl
    cases hnew : event.founded with
    | some a =>
      obtain ⟨id, name, production, staging, created, rfl, -⟩ := AppRow.shows_ofCreated hnew
      rw [app?_insertApp rfl happly, AppEvent.id, if_pos rfl] at hr
      cases hr
      exact ⟨e.pick (production, staging), by cases e <;> rfl, hgiven _ rfl⟩
    | none =>
      cases hdeletes : event.deletes with
      | true =>
        rw [app?_of_deletes hdeletes happly] at hr
        cases hr
      | false =>
        rw [applyAppEvent_of_change hnew hdeletes] at happly
        cases happly
        simp only [app?_updateApp fun r => r.id_project event, ↓reduceIte, Option.map_eq_some_iff] at hr
        obtain ⟨r, hr, rfl⟩ := hr
        rw [AppRow.slot_project r hnew]
        cases hc : event.config? e with
        | some c => exact ⟨c, rfl, hgiven c hc⟩
        | none => exact h r hr
  · rw [app?_applyAppEvent_of_ne hid happly] at hr
    exact h r hr

/-- **What events give an environment is all that its row comes to hold.** -/
theorem KnowsRow.foldlM {events : List AppEvent} (h : t.KnowsRow cs k e)
    (hevents : ∀ event ∈ events, event.id = k → ∀ c, event.config? e = some c → c.IsFrom cs)
    (happly : events.foldlM applyAppEvent t = .ok t') : t'.KnowsRow cs k e := by
  induction events generalizing t with
  | nil =>
    cases happly
    exact h
  | cons event events ih =>
    obtain ⟨hfirst, hrest⟩ := List.forall_mem_cons.mp hevents
    obtain ⟨next, hnext, happly⟩ := Database.exists_of_foldlM_cons happly
    exact ih (h.apply hfirst hnext) hrest happly

end Tables

end Events

/-! ## Copies -/

/-- Copies of an app in memory, and the store that they are read from and written to. -/
structure Copies where
  apps : List App
  store : Store

inductive CopyMove where
  /-- The copy in this place is changed or written, or the store changes elsewhere. -/
  | act (place : Nat) (move : Move App AppOperation)
  /-- The app of the copy in this place is read from its row once more. -/
  | load (place : Nat)

/-- The configuration that a move supplies for an environment. -/
def CopyMove.config? (e : Environment) : CopyMove → Option EnvConfig
  | .act _ (.operate o) => o.config? e
  | _ => none

/-- The configurations that are supplied for an environment, from the creation of the app on. -/
def suppliedConfigs (e : Environment) (production staging : Requirement) (ms : List CopyMove) : List EnvConfig :=
  (e.pick (production, staging)).config.toList ++ ms.filterMap (CopyMove.config? e)

namespace Copies

def perform (s : Copies) : CopyMove → Copies
  | .act i m =>
    match s.apps[i]? with
    | none => s
    | some a =>
      let held := Held.perform ⟨a, s.store, true, false⟩ m
      ⟨s.apps.set i held.aggregate, held.store⟩
  | .load i =>
    match s.apps[i]? with
    | none => s
    | some a =>
      match s.store.loadApp a.id with
      | (.error _, store) => { s with store }
      | (.ok a, store) => ⟨s.apps ++ [a], store⟩

def run (s : Copies) (ms : List CopyMove) : Copies := ms.foldl perform s

/-- A copy of the app, or its row, has this configuration for the environment. -/
inductive Has (s : Copies) (k : AppId) (e : Environment) : EnvConfig → Prop where
  | inMemory {a : App} (ha : a ∈ s.apps) : Has s k e (a.environment e)
  | stored {r : AppRow} {c : EnvConfig} (hr : s.store.db.tables.app? k = some r) (hc : (r.slot e).Shows e c) :
    Has s k e c

end Copies

/-! ## What every move keeps -/

section Moves

variable {cs : List EnvConfig} {k : AppId} {e : Environment} {a a' : App} {o : AppOperation}

/-- A copy has only what was supplied, in the environment and in what waits to be written. -/
structure App.KnowsCopy (cs : List EnvConfig) (k : AppId) (e : Environment) (a : App) : Prop where
  id : a.id = k
  config : (a.environment e).IsFrom cs
  pending : ∀ event ∈ a.events.events, ∀ c, event.config? e = some c → c.IsFrom cs

/-- An operation gives the environment what it supplies, consolidated with what was there. -/
theorem App.Raises.config_cases {event : AppEvent} (h : a.Raises o event) {c : EnvConfig}
    (hc : event.config? e = some c) : ∃ s, o.config? e = some s ∧ c = s.consolidate (a.environment e) := by
  cases h with
  | @envChanged e' required config _ hmet _ =>
    simp only [AppEvent.config?] at hc
    split at hc
    · next he =>
      subst he
      cases hc
      exact ⟨config, by rw [AppOperation.config?, if_pos rfl, (Requirement.met_eq_ok_iff.mp hmet).1], rfl⟩
    · cases hc
  | versionControlConfigured | versionControlRemoved | cleanupRequested | deleted => cases hc

theorem App.Raises.founded_eq_none {event : AppEvent} (h : a.Raises o event) : event.founded = none := by
  cases h <;> rfl

/-- What comes of an environment when an operation is accepted. -/
theorem App.environment_perform (h : a.perform o = .ok a') (e : Environment) :
    a'.environment e = a.environment e ∨
      ∃ s, o.config? e = some s ∧ a'.environment e = s.consolidate (a.environment e) := by
  rcases perform_eq_ok h with ⟨rfl, -⟩ | ⟨event, hraises, rfl⟩
  · exact .inl rfl
  · have happly : (a.raise event).environment e = (event.config? e).getD (a.environment e) := by
      rw [← a.environment_apply hraises.founded_eq_none]
      cases e <;> rfl
    cases hc : event.config? e with
    | none => exact .inl (by rw [happly, hc, Option.getD_none])
    | some c =>
      obtain ⟨s, hs, rfl⟩ := hraises.config_cases hc
      exact .inr ⟨s, hs, by rw [happly, hc, Option.getD_some]⟩

theorem App.KnowsCopy.perform (h : a.KnowsCopy cs k e) (hs : ∀ c, o.config? e = some c → c ∈ cs)
    (ho : a.perform o = .ok a') : a'.KnowsCopy cs k e := by
  constructor
  case config =>
    rcases environment_perform ho e with hsame | ⟨s, hsupplied, hnew⟩
    · rw [hsame]
      exact h.config
    · rw [hnew]
      exact EnvConfig.isFrom_consolidate (hs s hsupplied) h.config
  all_goals rcases perform_eq_ok ho with ⟨rfl, -⟩ | ⟨event, hraises, rfl⟩
  case id.inl => exact h.id
  case id.inr => exact (a.id_apply event).trans h.id
  case pending.inl => exact h.pending
  case pending.inr =>
    refine List.forall_mem_append.mpr ⟨h.pending, List.forall_mem_singleton.mpr fun c hc => ?_⟩
    obtain ⟨s, hsupplied, rfl⟩ := hraises.config_cases hc
    exact EnvConfig.isFrom_consolidate (hs s hsupplied) h.config

/-- **An accepted operation changes target and version or neither.** -/
theorem App.KnowsCopy.version_eq_iff (h : a.KnowsCopy cs k e) (hs : ∀ c, o.config? e = some c → c ∈ cs)
    (hd : EnvConfig.Distinct cs) (ho : a.perform o = .ok a') :
    (a'.environment e).version = (a.environment e).version ↔
      (a'.environment e).target = (a.environment e).target := by
  refine ⟨hd.target_eq (h.perform hs ho).config h.config, fun htarget => ?_⟩
  rcases environment_perform ho e with hsame | ⟨s, -, hnew⟩
  · rw [hsame]
  · rw [hnew] at htarget ⊢
    exact EnvConfig.version_consolidate_of_target htarget

/-- A row that holds a configuration shows no other. -/
theorem SlotRow.eq_of_shows_ofConfig {c c' : EnvConfig} (h : (SlotRow.ofConfig c).Shows e c') : c' = c := by
  obtain ⟨target, version, vars⟩ := c'
  obtain ⟨htarget, hversion, hvars⟩ := h
  cases htarget
  cases hversion
  cases hvars
  rfl

theorem Tables.KnowsRow.isFrom {t : Tables} {r : AppRow} {c : EnvConfig} (h : t.KnowsRow cs k e)
    (hr : t.app? k = some r) (hc : (r.slot e).Shows e c) : c.IsFrom cs := by
  obtain ⟨c', hslot, hc'⟩ := h r hr
  rw [hslot] at hc
  rwa [SlotRow.eq_of_shows_ofConfig hc]

/-- What is read from a row that holds what was supplied was supplied. -/
theorem App.knowsCopy_of_load {t : Tables} (ht : t.KnowsRow cs k e) (h : t.app k = .ok a) : a.KnowsCopy cs k e := by
  obtain ⟨r, hr, hshows⟩ := Tables.app_eq_ok.mp h
  have hslot : (r.slot e).Shows e (a.environment e) := by
    cases e with
    | production => exact hshows.production
    | staging => exact hshows.staging
  refine ⟨Tables.id_of_app?_shows hr hshows, ht.isFrom hr hslot, ?_⟩
  rw [hshows.events, EventBuffer.events_empty]
  exact List.forall_mem_nil _

namespace Held

variable {h : Held App} {before after : List App}

/-- A write leaves the copy what it was and takes nothing but supplied configurations to the row. -/
theorem knows_write (hcopy : h.aggregate.KnowsCopy cs k e) (hrow : h.store.db.tables.KnowsRow cs k e)
    (halone : h.isAlone before after = true) :
    (((h.write before after).2.1[before.length]?.getD h.aggregate).KnowsCopy cs k e) ∧
      (h.write before after).2.2.db.tables.KnowsRow cs k e := by
  rcases h.write_cases before after with ⟨-, hkept, htables⟩ | ⟨-, hcleared, happlied⟩
  · rw [hkept, htables]
    exact ⟨by simpa using hcopy, hrow⟩
  · rw [hcleared]
    obtain ⟨hbefore, hafter⟩ : (∀ event ∈ pendingEvents before, Kept.keyOf App event ≠ Kept.key h.aggregate) ∧
        ∀ event ∈ pendingEvents after, Kept.keyOf App event ≠ Kept.key h.aggregate := by simpa [isAlone] using halone
    refine ⟨⟨hcopy.id, ?_, List.forall_mem_nil _⟩, hrow.foldlM (fun event hevent hid => ?_) happlied⟩
    · have hconfig := hcopy.config
      cases e <;> exact hconfig
    · rw [pendingEvents, List.flatMap_append, List.flatMap_cons, List.mem_append, List.mem_append] at hevent
      have hid : Kept.keyOf App event = Kept.key h.aggregate := hid.trans hcopy.id.symm
      rcases hevent with hother | hown | hother
      · exact absurd hid (hbefore event hother)
      · exact hcopy.pending event hown
      · exact absurd hid (hafter event hother)

theorem knows_perform (hcopy : h.aggregate.KnowsCopy cs k e) (hrow : h.store.db.tables.KnowsRow cs k e) {i : Nat}
    {m : Move App AppOperation} (hs : ∀ c, (CopyMove.act i m).config? e = some c → c ∈ cs) :
    (h.perform m).aggregate.KnowsCopy cs k e ∧ (h.perform m).store.db.tables.KnowsRow cs k e := by
  cases m with
  | operate o =>
    rw [perform]
    split
    · exact ⟨hcopy, hrow⟩
    · next ho => exact ⟨hcopy.perform hs ho, hrow⟩
  | write before after =>
    rw [perform]
    split
    · next halone => exact knows_write hcopy hrow halone
    · exact ⟨hcopy, hrow⟩
  | elsewhere change =>
    rw [perform]
    split
    · next hsame =>
      have hsame : (change h.store).db.tables.app? h.aggregate.id = h.store.db.tables.app? h.aggregate.id := hsame
      rw [hcopy.id] at hsame
      refine ⟨hcopy, fun r hr => hrow r ?_⟩
      rwa [← hsame]
    · exact ⟨hcopy, hrow⟩

end Held

namespace Copies

variable {s : Copies}

/-- All copies and the row have only what was supplied. -/
structure Known (cs : List EnvConfig) (k : AppId) (e : Environment) (s : Copies) : Prop where
  copies : ∀ a ∈ s.apps, a.KnowsCopy cs k e
  row : s.store.db.tables.KnowsRow cs k e

theorem Known.isFrom (h : s.Known cs k e) {c : EnvConfig} (hc : s.Has k e c) : c.IsFrom cs := by
  cases hc with
  | inMemory ha => exact (h.copies _ ha).config
  | stored hr hc => exact h.row.isFrom hr hc

/-- **Every move keeps that.** -/
theorem Known.perform {m : CopyMove} (h : s.Known cs k e) (hs : ∀ c, m.config? e = some c → c ∈ cs) :
    (s.perform m).Known cs k e := by
  cases m with
  | act i m =>
    rw [Copies.perform]
    split
    · exact h
    · next a ha =>
      obtain ⟨hcopy, hrow⟩ := Held.knows_perform (h := ⟨a, s.store, true, false⟩)
        (h.copies a (List.mem_of_getElem? ha)) h.row hs
      refine ⟨fun b hb => ?_, hrow⟩
      rcases List.mem_or_eq_of_mem_set hb with hb | rfl
      · exact h.copies b hb
      · exact hcopy
  | load i =>
    rw [Copies.perform]
    split
    · exact h
    · next a ha =>
      have hid := (h.copies a (List.mem_of_getElem? ha)).id
      rcases s.store.query_cases (fun t => t.app a.id) with
        ⟨error, store, hquery, htables⟩ | ⟨b, store, hquery, hload, htables⟩
      · have hload : s.store.loadApp a.id = (.error error, store) := hquery
        simp only [hload]
        exact ⟨h.copies, by rw [htables]; exact h.row⟩
      · have hloaded : s.store.loadApp a.id = (.ok b, store) := hquery
        simp only [hloaded]
        rw [hid] at hload
        refine ⟨List.forall_mem_append.mpr ⟨h.copies, List.forall_mem_singleton.mpr ?_⟩, by rw [htables]; exact h.row⟩
        exact App.knowsCopy_of_load h.row hload

theorem Known.run {ms : List CopyMove} (h : s.Known cs k e) (hs : ∀ m ∈ ms, ∀ c, m.config? e = some c → c ∈ cs) :
    (s.run ms).Known cs k e := by
  induction ms generalizing s with
  | nil => exact h
  | cons m ms ih =>
    obtain ⟨hfirst, hrest⟩ := List.forall_mem_cons.mp hs
    exact ih (h.perform hfirst) hrest

end Copies

end Moves

/-! ## Runs from the creation on -/

/-- What the versions of an environment tell in the run `ms` of the app `k`. -/
structure Copies.VersionsTell (first : Copies) (k : AppId) (e : Environment) (ms : List CopyMove) : Prop where
  /-- In any two states of the run one version is of one target. -/
  targets : ∀ ms₁ ms₂ c₁ c₂, ms₁ <+: ms → ms₂ <+: ms → (first.run ms₁).Has k e c₁ → (first.run ms₂).Has k e c₂ →
    c₁.version = c₂.version → c₁.target = c₂.target
  /-- An operation changes both in its copy or neither. So new variables alone come with no new version. -/
  moves : ∀ before i o after a, ms = before ++ .act i (.operate o) :: after →
    (first.run before).apps[i]? = some a →
    ∃ a', (first.run (before ++ [.act i (.operate o)])).apps[i]? = some a' ∧
      ((a'.environment e).version = (a.environment e).version ↔
        (a'.environment e).target = (a.environment e).target)

section Runs

variable {id : AppId} {name : AppName} {production staging : Requirement} {created : Signature} {a : App}
  {store : Store} {e : Environment} {cs : List EnvConfig} {k : AppId} {s : Copies}

/-- The copy that an app is created as. -/
theorem App.knowsCopy_of_create (h : create id name production staging created = .ok a)
    (hs : ∀ c, (e.pick (production, staging)).config = some c → c ∈ cs) : a.KnowsCopy cs id e := by
  obtain ⟨p, q, hp, hq, rfl⟩ := create_eq_ok.mp h
  have hsupplied : (e.pick (production, staging)).config = some (e.pick (p, q)) := by
    cases e with
    | production => exact (Requirement.met_eq_ok_iff.mp hp).1
    | staging => exact (Requirement.met_eq_ok_iff.mp hq).1
  have hfrom : (e.pick (p, q)).IsFrom cs := .of_mem (hs _ hsupplied)
  refine ⟨rfl, ?_, List.forall_mem_singleton.mpr fun c hc => Option.some.inj hc ▸ hfrom⟩
  cases e <;> exact hfrom

theorem Copies.run_concat (s : Copies) (ms : List CopyMove) (m : CopyMove) :
    s.run (ms ++ [m]) = (s.run ms).perform m := by
  rw [run, run, List.foldl_append, List.foldl_cons, List.foldl_nil]

/-- What an operation does to its copy. -/
theorem Copies.Known.operate (h : s.Known cs k e) {i : Nat} {o : AppOperation} (hs : ∀ c, o.config? e = some c → c ∈ cs)
    (hd : EnvConfig.Distinct cs) (ha : s.apps[i]? = some a) :
    ∃ a', (s.perform (.act i (.operate o))).apps[i]? = some a' ∧
      ((a'.environment e).version = (a.environment e).version ↔
        (a'.environment e).target = (a.environment e).target) := by
  obtain ⟨hi, -⟩ := List.getElem?_eq_some_iff.mp ha
  have hcopy := h.copies a (List.mem_of_getElem? ha)
  simp only [Copies.perform, ha, Held.perform, List.getElem?_set_self hi]
  refine ⟨_, rfl, ?_⟩
  cases ho : Kept.perform a o with
  | error x => exact iff_of_true rfl rfl
  | ok a' => exact hcopy.version_eq_iff hs hd ho

/-- **A version of an environment tells its target**, from the creation of the app on. -/
theorem versions_tell (hcreate : App.create id name production staging created = .ok a)
    (hfree : store.db.tables.app? id = none) (e : Environment) (ms : List CopyMove)
    (hdistinct : EnvConfig.Distinct (suppliedConfigs e production staging ms)) :
    Copies.VersionsTell ⟨[a], store⟩ id e ms := by
  have hsupplied : ∀ m ∈ ms, ∀ c, m.config? e = some c → c ∈ suppliedConfigs e production staging ms :=
    fun m hm c hc => List.mem_append_right _ (List.mem_filterMap.mpr ⟨m, hm, hc⟩)
  have hfirst : Copies.Known (suppliedConfigs e production staging ms) id e ⟨[a], store⟩ := by
    refine ⟨List.forall_mem_singleton.mpr (App.knowsCopy_of_create hcreate fun c hc => ?_), fun r hr => ?_⟩
    · exact List.mem_append_left _ (Option.mem_toList.mpr hc)
    · cases hfree.symm.trans hr
  have hknown {ms' : List CopyMove} (hearlier : ms' <+: ms) :
      (Copies.run ⟨[a], store⟩ ms').Known (suppliedConfigs e production staging ms) id e :=
    hfirst.run fun m hm => hsupplied m (hearlier.subset hm)
  constructor
  case targets =>
    intro ms₁ ms₂ c₁ c₂ h₁ h₂ hc₁ hc₂
    exact hdistinct.target_eq ((hknown h₁).isFrom hc₁) ((hknown h₂).isFrom hc₂)
  case moves =>
    rintro before i o after b rfl hb
    rw [Copies.run_concat]
    refine (hknown (List.prefix_append ..)).operate (fun c hc => ?_) hdistinct hb
    exact hsupplied _ (List.mem_append_right _ List.mem_cons_self) c hc

end Runs

namespace ShortLife

def east : TargetId := ⟨⟨1⟩⟩

def later : Timestamp := .ofInstant 1

def latest : Timestamp := .ofInstant 2

/-- A store with nothing in it. -/
def emptyStore : Store := { db := .empty, bus := [], hub := ⟨.empty ⟨1, .zero, .zero⟩ 1, []⟩ }

/-- The app is stored, moved by one copy and given variables by another, which was read before that. -/
def copyMoves : List CopyMove :=
  [.act 0 (.write [] []), .load 0,
    .act 0 (.operate (.updateEnvironment .production (.of ⟨east, later, none⟩ true true))), .act 0 (.write [] []),
    .act 1 (.operate (.updateEnvironment .production (.of ⟨default, latest, some default⟩ true true))),
    .act 1 (.write [] [])]

theorem distinct_copyMoves :
    EnvConfig.Distinct (suppliedConfigs .production (.of config true true) (.of config true true) copyMoves) := by
  unfold EnvConfig.Distinct
  decide +kernel

end ShortLife

open ShortLife in
/-- The copy that did not move keeps its first version, and so does the row that it is written to. -/
theorem versions_tell_shortLife : ∃ a,
    App.create default name (.of config true true) (.of config true true) signature = .ok a ∧
      Copies.VersionsTell ⟨[a], emptyStore⟩ default .production copyMoves ∧
      (Copies.run ⟨[a], emptyStore⟩ copyMoves).apps.map (fun a => (a.production.target, a.production.version)) =
        [(east, later), (default, default)] ∧
      (Copies.run ⟨[a], emptyStore⟩ copyMoves).store.db.tables.apps.map (fun r => r.production.version) =
        [.value default] :=
  ⟨_, rfl, versions_tell rfl rfl .production copyMoves distinct_copyMoves, by decide +kernel, by decide +kernel⟩

end Rollout
