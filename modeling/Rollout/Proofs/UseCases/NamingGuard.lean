import Rollout.Proofs.UseCases.NameClashes
import Rollout.Proofs.UseCases.Outcomes

/-!
# The naming guard

Calls are made one at a time here. A configuration fits an app if its target can be used and no other app of the name is
there (`Tables.Fits`). A call is accepted just if all configurations that it asks for fit, and is refused with what
stands against the first one that does not (`Tables.Judges`); whatever it comes to, no two apps of one name have come to
be on one target (`Tables.Separate`, `naming_guard`).
-/

namespace Rollout

namespace Tables

variable {t t' : Tables} {except : AppRow → Bool} {name : Column String} {c : EnvConfig} {cs : List EnvConfig}
  {e : AppError}

/-! ## Configurations that fit -/

/-- The target exists and is not marked for cleanup. -/
def Offers (t : Tables) (target : TargetId) : Prop := ∃ r ∈ t.targets, r.id = target ∧ r.isMarked = false

/-- An app of the name, not excepted, is on the target with one of its environments. -/
def IsTaken (t : Tables) (except : AppRow → Bool) (name : Column String) (target : TargetId) : Prop :=
  ∃ r ∈ t.apps, except r = false ∧ r.name = name ∧ r.isOn target = true

def Fits (t : Tables) (except : AppRow → Bool) (name : Column String) (c : EnvConfig) : Prop :=
  t.Offers c.target ∧ ¬t.IsTaken except name c.target

/-- What stands against a configuration. A missing target counts before a taken name. -/
inductive Objection (t : Tables) (except : AppRow → Bool) (name : Column String) (c : EnvConfig) : AppError → Prop where
  | missing (h : ¬t.Offers c.target) : Objection t except name c (.targetNotFound c.target)
  | taken (hoffers : t.Offers c.target) (h : t.IsTaken except name c.target) :
    Objection t except name c (.nameAlreadyTaken c.target)

/-- What stands against the first of some configurations that does not fit. -/
def FirstObjection (t : Tables) (except : AppRow → Bool) (name : Column String) (cs : List EnvConfig)
    (e : AppError) : Prop :=
  ∃ before c after, cs = before ++ c :: after ∧ (∀ c' ∈ before, t.Fits except name c') ∧ t.Objection except name c e

theorem isUsable_iff {target : TargetId} : t.isUsable target = true ↔ t.Offers target := by
  simp [isUsable, Offers]

theorem isFree_iff {target : TargetId} : t.isFree except name target = true ↔ ¬t.IsTaken except name target := by
  simp [isFree, IsTaken]

theorem Objection.not_fits (h : t.Objection except name c e) : ¬t.Fits except name c := by
  rintro ⟨hoffers, hfree⟩
  cases h with
  | missing hnot => exact hnot hoffers
  | taken _ htaken => exact hfree htaken

theorem met_requirement_eq_ok {c' : EnvConfig} :
    (t.requirement except name c).met = .ok c' ↔ c = c' ∧ t.Fits except name c := by
  simp only [Requirement.met_eq_ok_iff, requirement, Requirement.of, Option.some.injEq, isUsable_iff, isFree_iff, Fits]

theorem met_requirement_eq_error :
    (t.requirement except name c).met = .error e ↔ t.Objection except name c e := by
  simp only [Requirement.met, requirement, Requirement.of, Bool.not_eq_true']
  split
  · next hmissing =>
    have hmissing : ¬t.Offers c.target := by rw [← isUsable_iff, hmissing]; exact Bool.false_ne_true
    refine ⟨fun h => ?_, fun h => ?_⟩
    · cases h
      exact .missing hmissing
    · cases h with
      | missing => rfl
      | taken hoffers => exact absurd hoffers hmissing
  · next hoffers =>
    have hoffers : t.Offers c.target := isUsable_iff.mp (Bool.of_not_eq_false hoffers)
    split
    · next htaken =>
      have htaken : t.IsTaken except name c.target := by
        by_contra hfree
        rw [← isFree_iff, htaken] at hfree
        cases hfree
      refine ⟨fun h => ?_, fun h => ?_⟩
      · cases h
        exact .taken hoffers htaken
      · cases h with
        | missing hmissing => exact absurd hoffers hmissing
        | taken => rfl
    · next hfree =>
      have hfree : ¬t.IsTaken except name c.target := isFree_iff.mp (Bool.of_not_eq_false hfree)
      refine ⟨fun h => ?_, fun h => absurd ⟨hoffers, hfree⟩ h.not_fits⟩
      cases h

/-- Looks at some configurations one after another, up to the first one that does not fit. -/
def judge (t : Tables) (except : AppRow → Bool) (name : Column String) : List EnvConfig → Except AppError Unit
  | [] => .ok ()
  | c :: cs => (t.requirement except name c).met >>= fun _ => t.judge except name cs

theorem judge_append (cs' : List EnvConfig) :
    t.judge except name (cs ++ cs') = t.judge except name cs >>= fun _ => t.judge except name cs' := by
  induction cs with
  | nil => rfl
  | cons c cs ih => rw [List.cons_append, judge, judge, ih, bind_assoc]

theorem judge_eq_ok : t.judge except name cs = .ok () ↔ ∀ c ∈ cs, t.Fits except name c := by
  induction cs with
  | nil => simp [judge]
  | cons c cs ih =>
    rw [judge, bind_eq_ok, List.forall_mem_cons, ih]
    simp only [met_requirement_eq_ok, and_assoc, exists_eq_left']

theorem judge_eq_error : t.judge except name cs = .error e ↔ t.FirstObjection except name cs e := by
  induction cs with
  | nil => exact ⟨fun h => (nomatch h), fun ⟨before, c, after, hcs, _⟩ => absurd hcs (by simp)⟩
  | cons c cs ih =>
    rw [judge]
    cases hmet : (t.requirement except name c).met with
    | error e' =>
      have hobjection := met_requirement_eq_error.mp hmet
      constructor
      · intro h
        cases h
        exact ⟨[], c, cs, rfl, List.forall_mem_nil _, hobjection⟩
      · rintro ⟨before, c', after, hcs, hfits, he⟩
        cases before with
        | nil =>
          cases hcs
          rw [← met_requirement_eq_error, hmet] at he
          cases he
          rfl
        | cons c'' before =>
          cases hcs
          exact absurd (hfits c List.mem_cons_self) hobjection.not_fits
    | ok c' =>
      obtain ⟨rfl, hfit⟩ := met_requirement_eq_ok.mp hmet
      show t.judge except name cs = .error e ↔ _
      rw [ih]
      constructor
      · rintro ⟨before, c', after, rfl, hfits, he⟩
        exact ⟨c :: before, c', after, rfl, List.forall_mem_cons.mpr ⟨hfit, hfits⟩, he⟩
      · rintro ⟨before, c', after, hcs, hfits, he⟩
        cases before with
        | nil =>
          cases hcs
          exact absurd hfit he.not_fits
        | cons c'' before =>
          cases hcs
          exact ⟨before, c', after, rfl, (List.forall_mem_cons.mp hfits).2, he⟩

/-- A call that asks for the configurations `cs` is accepted just if all of them fit, and refused with what stands
against the first one that does not. -/
structure Judges (t : Tables) (except : AppRow → Bool) (name : Column String) (cs : List EnvConfig) {β : Type}
    (answer : β) (result : Except CommandError β) : Prop where
  accepted : result = .ok answer ↔ ∀ c ∈ cs, t.Fits except name c
  refused (e : AppError) : result = .error (.rejected e) ↔ t.FirstObjection except name cs e

theorem judges_of_judge {β : Type} {answer : β} {result : Except CommandError β}
    (h : result = ((t.judge except name cs).map fun _ => answer).mapError .rejected) :
    t.Judges except name cs answer result := by
  cases hjudge : t.judge except name cs with
  | error e =>
    rw [hjudge] at h
    subst h
    refine ⟨⟨nofun, fun hfits => ?_⟩, fun e' => ?_⟩
    · rw [← judge_eq_ok, hjudge] at hfits
      cases hfits
    · rw [← judge_eq_error, hjudge]
      simp [Except.map, Except.mapError]
  | ok u =>
    rw [hjudge] at h
    subst h
    refine ⟨⟨fun _ => judge_eq_ok.mp hjudge, fun _ => rfl⟩, fun e' => ?_⟩
    rw [← judge_eq_error, hjudge]
    simp [Except.map, Except.mapError]

/-! ## What calls build -/

theorem isOk_useVersionControl {a : App} (hopen : a.cleanupRequested = none) (config : VersionControl) :
    (a.useVersionControl config).map (fun _ => ()) = .ok () := by
  rw [map_eq_ok]
  exact ⟨_, App.useVersionControl_eq_ok.mpr ⟨hopen, rfl⟩, rfl⟩

theorem isOk_removeVersionControl {a : App} (hopen : a.cleanupRequested = none) :
    a.removeVersionControl.map (fun _ => ()) = .ok () := by
  rw [map_eq_ok]
  exact ⟨_, App.removeVersionControl_eq_ok.mpr ⟨hopen, rfl⟩, rfl⟩

/-- A new app is built just as the configurations are judged. -/
theorem judge_of_new (input : NewApp) (id : AppId) (created : Signature) :
    (input.build id (t.checkNaming input.name input.production input.staging) created).map (fun _ => ()) =
      t.judge (fun _ => false) (.value input.name.text) [input.production, input.staging] := by
  simp only [NewApp.build, App.create, checkNaming, judge]
  cases (t.requirement (fun _ => false) (.value input.name.text) input.production).met with
  | error e => rfl
  | ok production =>
    cases (t.requirement (fun _ => false) (.value input.name.text) input.staging).met with
    | error e => rfl
    | ok staging =>
      cases input.versionControl with
      | none => rfl
      | some config =>
        let app : App := ⟨id, input.name, production, staging, none, none, created,
          EventBuffer.empty.record (.created id input.name production staging created)⟩
        exact isOk_useVersionControl (a := app) rfl config

/-- What is required of an environment of a stored app. -/
def required (t : Tables) (except : AppRow → Bool) (name : Column String) : Option EnvConfig → Requirement
  | some c => t.requirement except name c
  | none => .empty

/-- An app moves an environment just as the configuration is judged, and goes on. -/
theorem judge_of_moveTo {a : App} {environment : Environment} {wanted : Option EnvConfig}
    {next : App → Except AppError App} {rest : Except AppError Unit} (hopen : a.cleanupRequested = none)
    (hnext : ∀ a' : App, a'.cleanupRequested = none → (next a').map (fun _ => ()) = rest) :
    (AppChange.moveTo a environment (t.required except name wanted) >>= next).map (fun _ => ()) =
      t.judge except name wanted.toList >>= fun _ => rest := by
  cases wanted with
  | none => exact hnext a hopen
  | some c =>
    have hasked : (t.requirement except name c).isEmpty = false := rfl
    simp only [required, AppChange.moveTo, hasked, Option.toList_some, judge]
    cases hmet : (t.requirement except name c).met with
    | error e =>
      have hupdate : a.updateEnvironment environment (t.requirement except name c) = .error e := by
        simp [App.updateEnvironment, App.ensureNotCleaningUp, hopen, hmet, bind, Except.bind]
      rw [if_neg (by simp), hupdate]
      rfl
    | ok config =>
      have hupdate := App.updateEnvironment_eq_ok (e := environment).mpr ⟨hopen, config, hmet, rfl⟩
      rw [if_neg (by simp), hupdate]
      refine hnext _ ?_
      split
      · exact hopen
      · cases environment <;> exact hopen

/-- An app is changed just as the configurations are judged. -/
theorem judge_of_change {a : App} (hopen : a.cleanupRequested = none) (input : AppChange) :
    (input.build a (t.required except name input.production, t.required except name input.staging)).map
        (fun _ => ()) =
      t.judge except name (input.production.toList ++ input.staging.toList) := by
  have hrest (x : Except AppError Unit) : x = x >>= fun _ => .ok () := by cases x <;> rfl
  rw [judge_append, hrest (t.judge except name input.staging.toList), AppChange.build]
  refine judge_of_moveTo hopen fun a hopen => judge_of_moveTo hopen fun a hopen => ?_
  cases input.versionControl with
  | keep => rfl
  | use config => exact isOk_useVersionControl hopen config
  | remove => exact isOk_removeVersionControl hopen

/-- What a call is told that changes the app of a row. -/
theorem eq_of_told {id : AppId} {row : AppRow} {input : AppChange} {told : Requirement × Requirement}
    (hrow : t.app? id = some row) (h : Store.Told t id input told) :
    told = (t.required (·.id.holds id) row.name input.production,
      t.required (·.id.holds id) row.name input.staging) := by
  rcases h with ⟨hproduction, hstaging, rfl⟩ | h
  · rw [hproduction, hstaging]
    rfl
  · rw [checkNamingById, hrow] at h
    cases h
    cases input.production <;> cases input.staging <;> rfl

/-! ## Apps of one name -/

/-- No two apps of one name share a target, whichever of their environments are on it. -/
structure Separate (t : Tables) : Prop where
  nodup : (t.apps.map (·.id)).Nodup
  apart : ∀ r₁ ∈ t.apps, ∀ r₂ ∈ t.apps, r₁.id ≠ r₂.id → r₁.name = r₂.name →
    ∀ target, r₁.isOn target = true → r₂.isOn target = false

/-- What is written of an app leaves names apart if the app was told the truth. -/
theorem Separate.of_written {app : AppId} {required : Requirement × Requirement} {a : App} (h : t.Separate)
    (hbuilds : Builds app name required a)
    (hnamed : (∀ e ∈ Aggregate.pending a, e.founded = none) → Named t.apps app name required)
    (hfree : ∀ target, Clears required target → ∀ r ∈ t.apps, r.name = name → r.id ≠ .value app →
      r.isOn target = false)
    (hwritten : (Aggregate.pending a).foldlM applyAppEvent t = .ok t') : t'.Separate := by
  have hplaced {r : AppRow} (hr : r ∈ t'.apps) {target : TargetId} (hon : r.isOn target = true) :=
    hbuilds.on_cases h.nodup hnamed hwritten hr hon
  refine ⟨nodup_of_events h.nodup hwritten, fun r₁ hr₁ r₂ hr₂ hne hname target hon₁ => ?_⟩
  by_contra hon₂
  rw [Bool.not_eq_false] at hon₂
  rcases hplaced hr₁ hon₁ with ⟨o₁, ho₁, hid₁, hname₁, hon₁⟩ | ⟨hid₁, hname₁, hclears⟩
  · rcases hplaced hr₂ hon₂ with ⟨o₂, ho₂, hid₂, hname₂, hon₂⟩ | ⟨hid₂, hname₂, hclears⟩
    · have hapart := h.apart o₁ ho₁ o₂ ho₂ (by rwa [hid₁, hid₂]) (hname₁.trans (hname.trans hname₂.symm)) target hon₁
      rw [hapart] at hon₂
      cases hon₂
    · have hoff := hfree target hclears o₁ ho₁ (hname₁.trans (hname.trans hname₂)) (by rw [hid₁, ← hid₂]; exact hne)
      rw [hoff] at hon₁
      cases hon₁
  · rcases hplaced hr₂ hon₂ with ⟨o₂, ho₂, hid₂, hname₂, hon₂⟩ | ⟨hid₂, -, -⟩
    · have hoff := hfree target hclears o₂ ho₂ (hname₂.trans (hname.symm.trans hname₁))
        (by rw [hid₂, ← hid₁]; exact hne.symm)
      rw [hoff] at hon₂
      cases hon₂
    · exact hne (hid₁.trans hid₂.symm)

end Tables

namespace Store

open Tables

variable {s s' : Store} {β : Type} {result : Except CommandError β} {Builds : β → Except AppError App → Prop}

/-- A use case keeps what a write of what it builds keeps. -/
theorem Comes.separate (h : Comes s Builds result s') (hseparate : s.db.tables.Separate)
    (hbuilt : ∀ answer a t', Builds answer (.ok a) →
      (Aggregate.pending a).foldlM applyAppEvent s.db.tables = .ok t' → t'.Separate) : s'.db.tables.Separate := by
  cases h with
  | fails k => rwa [tables_skip]
  | refused k => rwa [tables_skip]
  | @written answer a written as s' k hbuilds hwrite hstored =>
    rcases (s.skip k).write_cases [a] with ⟨error, j, heq⟩ | ⟨written', tables, j, hub, happlied, -, heq⟩
    · cases hwrite.symm.trans heq
      cases hstored
    · cases hwrite.symm.trans heq
      rw [pendingEvents, List.flatMap_singleton, tables_skip] at happlied
      exact hbuilt answer a tables hbuilds happlied

/-- A use case whose accesses to the store do not fail comes to what the configurations are judged to be. -/
theorem Comes.judges {except : AppRow → Bool} {name : Column String} {cs : List EnvConfig} {answer : β}
    (h : Comes s Builds result s') (hfine : ∀ e, result ≠ .error (.store e))
    (hbuilt : ∀ answer' built, Builds answer' built → answer' = answer ∧
      built.map (fun _ => ()) = s.db.tables.judge except name cs) :
    s.db.tables.Judges except name cs answer result := by
  refine judges_of_judge ?_
  cases h with
  | fails => exact absurd rfl (hfine _)
  | refused k hbuilds =>
    rw [← (hbuilt _ _ hbuilds).2]
    rfl
  | @written answer' a written as s' k hbuilds hwrite hstored =>
    obtain ⟨rfl, hjudge⟩ := hbuilt _ _ hbuilds
    rw [← hjudge]
    cases written with
    | error e => exact absurd rfl (hfine e)
    | ok u => rfl

theorem separate_createApp (h : s.db.tables.Separate) (id : AppId) (input : NewApp) (created : Signature) :
    (s.createApp id input created).2.db.tables.Separate := by
  have hcomes := comes_of_createApp (rfl : s.createApp id input created = (_, _))
  refine hcomes.separate h ?_
  rintro answer a t' ⟨rfl, ha⟩ hwritten
  obtain ⟨hbuilds, e, he, hnew⟩ := Builds.of_new ha.symm
  exact h.of_written hbuilds (fun hold => absurd (hold e he) hnew)
    (fun target hclears r hr hname _ => not_isOn_of_checkNaming hclears hr hname) hwritten

theorem separate_updateApp (h : s.db.tables.Separate) (id : AppId) (input : AppChange) :
    (s.updateApp id input).2.db.tables.Separate := by
  have hcomes := comes_of_updateApp (rfl : s.updateApp id input = (_, _))
  refine hcomes.separate h ?_
  rintro answer a t' ⟨required, base, htold, hbase, ha⟩ hwritten
  obtain ⟨row, hrow, hshows⟩ := app_eq_ok.mp hbase
  have hbegins := id_of_app?_shows hrow hshows
  rcases htold with ⟨-, -, rfl⟩ | htold
  · have hbuilds : Rollout.Builds id (.value base.name.text) (.empty, .empty) a :=
      .of_change hbegins hshows.events ha.symm
    exact h.of_written hbuilds (fun _ _ hclears => absurd hclears not_clears_empty)
      (fun _ hclears => absurd hclears not_clears_empty) hwritten
  · obtain ⟨r, hr, hid, hfree⟩ := of_checkNamingById htold
    have hbuilds : Rollout.Builds id r.name required a := .of_change hbegins hshows.events ha.symm
    exact h.of_written hbuilds (fun _ _ _ => ⟨r, hr, hid, rfl⟩) hfree hwritten

/-- **The naming guard is sound and complete for calls made one at a time.** Where no two apps of one name share a
target, a new app is accepted just if both of its configurations fit, and a change of a stored app just if those that it
asks for do, other apps of the stored name being in the way; a refusal says what stands against the first one that does
not. No two apps of one name share a target afterwards. -/
theorem naming_guard (s : Store) (h : s.db.tables.Separate) :
    (∀ (id : AppId) (input : NewApp) (created : Signature),
      ((∀ e, (s.createApp id input created).1 ≠ .error (.store e)) →
        s.db.tables.Judges (fun _ => false) (.value input.name.text) [input.production, input.staging] id
          (s.createApp id input created).1) ∧
      (s.createApp id input created).2.db.tables.Separate) ∧
    ∀ (id : AppId) (input : AppChange),
      (∀ (row : AppRow) (a : App), s.db.tables.app? id = some row → row.toApp = .ok a → a.cleanupRequested = none →
        (∀ e, (s.updateApp id input).1 ≠ .error (.store e)) →
          s.db.tables.Judges (·.id.holds id) row.name (input.production.toList ++ input.staging.toList) ()
            (s.updateApp id input).1) ∧
      (s.updateApp id input).2.db.tables.Separate := by
  refine ⟨fun id input created => ⟨fun hfine => ?_, separate_createApp h id input created⟩,
    fun id input => ⟨fun row a hrow hread hopen hfine => ?_, separate_updateApp h id input⟩⟩
  · have hcomes := comes_of_createApp (rfl : s.createApp id input created = (_, _))
    refine hcomes.judges hfine ?_
    rintro answer built ⟨rfl, rfl⟩
    exact ⟨rfl, judge_of_new input answer created⟩
  · have ha : s.db.tables.app id = .ok a := app_eq_ok.mpr ⟨row, hrow, AppRow.toApp_eq_ok.mp hread⟩
    have hcomes := comes_of_updateApp (rfl : s.updateApp id input = (_, _))
    refine hcomes.judges hfine ?_
    rintro answer built ⟨required, base, htold, hbase, rfl⟩
    cases ha.symm.trans hbase
    rw [eq_of_told hrow htold]
    exact ⟨rfl, judge_of_change hopen input⟩

/-! ## An app that moves across -/

namespace Crossing

def east : TargetId := default

def west : TargetId := ⟨⟨1⟩⟩

def config (target : TargetId) : EnvConfig := ⟨target, default, none⟩

def name : AppName := ⟨"cafe", by decide⟩

/-- Two targets and no apps. -/
def site : Store := ⟨⟨⟨[⟨east, false⟩, ⟨west, false⟩], [], []⟩, false, []⟩, [], ⟨.empty ⟨1, .zero, .zero⟩ 1, []⟩⟩

def input : NewApp := ⟨name, config east, config west, none⟩

def first : AppId := default

def second : AppId := ⟨⟨1⟩⟩

/-- The store once the first app has been created. -/
def shop : Store := (site.createApp first input ⟨default, default⟩).2

/-- The first app changes sides. -/
def swap : AppChange := ⟨some (config west), some (config east), .keep⟩

def row : AppRow := AppRow.ofCreated first name (config east) (config west) ⟨default, default⟩

/-- The row of the first app once it has changed sides. -/
def swapped : AppRow := AppRow.ofCreated first name (config west) (config east) ⟨default, default⟩

end Crossing

open Crossing in
/-- An app is created, a second one of its name is refused for the target of its production environment, and the first
one swaps its targets, where its row then is. -/
theorem naming_guard_crossing :
    site.db.tables.Separate ∧ (site.createApp first input ⟨default, default⟩).1 = .ok first ∧
      site.db.tables.Judges (fun _ => false) (.value name.text) [config east, config west] first
        (site.createApp first input ⟨default, default⟩).1 ∧
      shop.db.tables.Separate ∧
      shop.db.tables.FirstObjection (fun _ => false) (.value name.text) [config east, config west]
        (.nameAlreadyTaken east) ∧
      shop.db.tables.app? first = some row ∧ (shop.updateApp first swap).1 = .ok () ∧
      shop.db.tables.Judges (·.id.holds first) row.name [config west, config east] () (shop.updateApp first swap).1 ∧
      (shop.updateApp first swap).2.db.tables.app? first = some swapped ∧
      (shop.updateApp first swap).2.db.tables.Separate := by
  have hsite : site.db.tables.Separate := ⟨List.nodup_nil, List.forall_mem_nil _⟩
  have hcreated : (site.createApp first input ⟨default, default⟩).1 = .ok first := by decide +kernel
  obtain ⟨hjudges, hshop⟩ := (naming_guard site hsite).1 first input ⟨default, default⟩
  obtain ⟨hcreate, hupdate⟩ := naming_guard shop hshop
  have hrefused : (shop.createApp second input ⟨default, default⟩).1 = .error (.rejected (.nameAlreadyTaken east)) := by
    decide +kernel
  have hagain := ((hcreate second input ⟨default, default⟩).1 (by rw [hrefused]; exact fun _ h => by cases h)).refused
  have hrow : shop.db.tables.app? first = some row := by decide +kernel
  have hswapped : (shop.updateApp first swap).1 = .ok () := by decide +kernel
  obtain ⟨hswap, hafter⟩ := hupdate first swap
  have hcreates := hjudges (by rw [hcreated]; exact fun _ h => by cases h)
  have hmoved : (shop.updateApp first swap).2.db.tables.app? first = some swapped := by decide +kernel
  refine ⟨hsite, hcreated, hcreates, hshop, ?_, hrow, hswapped, ?_, hmoved, hafter⟩
  · exact (hagain _).mp hrefused
  · exact hswap row _ hrow rfl rfl (by rw [hswapped]; exact fun _ h => by cases h)

end Store

end Rollout
