import Rollout.Proofs.Store.Course
import Rollout.Proofs.UseCases.Outcomes

/-!
# Calls that ask for cleanups and deployments

Such a call takes its steps one at a time, so that others can come between them: it loads the app, finds the next number
if a deployment is asked for, and writes. Without a break its steps are the use case (`RequestCall.steps_of_cleanup`,
`RequestCall.steps_of_deployment`). What one step can do is said once (`RequestCall.Effect`).

What a call has found out stays true enough as long as its app does (`RequestCall.Sound`): a deployment that is written
then comes right after those that are there, though others may have been asked for in the meantime.
-/

namespace Rollout

/-- What is asked of an app that is there. -/
inductive Request where
  | cleanup (requested : Signature)
  | deployment (e : Environment) (requested : Signature)

inductive RequestPhase where
  | entered (request : Request)
  | loaded (request : Request) (a : App)
  | numbered (a : App) (number : DeploymentNumber) (e : Environment) (requested : Signature)
  | ended (result : Except CommandError Unit)

structure RequestCall where
  app : AppId
  phase : RequestPhase

namespace RequestCall

def enter (app : AppId) (request : Request) : RequestCall := ⟨app, .entered request⟩

/-- Goes on with what the store answered. -/
def andThen {β : Type} (p : RequestCall) (answer : Except StoreError β × Store) (next : β → RequestPhase) :
    RequestCall × Store :=
  match answer with
  | (.error e, s) => (⟨p.app, .ended (.error (.store e))⟩, s)
  | (.ok b, s) => (⟨p.app, next b⟩, s)

/-- Writes what the call came to. -/
def finish {A ε : Type} [Aggregate A ε] (p : RequestCall) (built : Except AppError A) (s : Store) :
    RequestCall × Store :=
  (⟨p.app, .ended (s.commit () built).1⟩, (s.commit () built).2)

/-- One access to the store. -/
def step (p : RequestCall) (s : Store) : RequestCall × Store :=
  match p.phase with
  | .entered request => p.andThen (s.loadApp p.app) (.loaded request)
  | .loaded (.cleanup requested) a => p.finish (.ok (a.requestCleanup requested)) s
  | .loaded (.deployment e requested) a => p.andThen (s.nextNumber p.app) fun n => .numbered a n e requested
  | .numbered a n e requested => p.finish (a.newDeployment n e requested) s
  | .ended _ => (p, s)

/-! ## Steps without a break -/

/-- The call and the store after `n` steps. -/
def steps : Nat → RequestCall → Store → RequestCall × Store
  | 0, p, s => (p, s)
  | n + 1, p, s => steps n (p.step s).1 (p.step s).2

/-- A call for a cleanup that is not interrupted asks for it. -/
theorem steps_of_cleanup (app : AppId) (requested : Signature) (s : Store) :
    ((enter app (.cleanup requested)).steps 2 s).1.phase = .ended (s.requestCleanup app requested).1 ∧
      ((enter app (.cleanup requested)).steps 2 s).2 = (s.requestCleanup app requested).2 := by
  rcases hload : s.loadApp app with ⟨e | a, s₁⟩
  · simp [steps, enter, step, andThen, hload, Store.requestCleanup, Store.andThen]
  · simp [steps, enter, step, andThen, finish, hload, Store.requestCleanup, Store.andThen]

/-- A call for a deployment that is not interrupted asks for it. -/
theorem steps_of_deployment (app : AppId) (e : Environment) (requested : Signature) (s : Store) :
    ((enter app (.deployment e requested)).steps 3 s).1.phase =
        .ended ((s.queueDeployment app e requested).1.map fun _ => ()) ∧
      ((enter app (.deployment e requested)).steps 3 s).2 = (s.queueDeployment app e requested).2 := by
  rcases hload : s.loadApp app with ⟨error | a, s₁⟩
  · simp [steps, enter, step, andThen, hload, Store.queueDeployment, Store.andThen, Except.map]
  · rcases hnumber : s₁.nextNumber app with ⟨error | n, s₂⟩
    · simp [steps, enter, step, andThen, hload, hnumber, Store.queueDeployment, Store.andThen, Except.map]
    · simp [steps, enter, step, andThen, finish, hload, hnumber, Store.queueDeployment, Store.andThen,
        Store.commit_map s₂ n]

/-! ## What a step can do -/

variable {p p' : RequestCall} {s s' : Store} {t t' : Tables}

/-- What a step can make of a call and of the tables. -/
inductive Effect (p : RequestCall) (t : Tables) : RequestCall → Tables → Prop where
  | ends {result : Except CommandError Unit} : Effect p t ⟨p.app, .ended result⟩ t
  | loads {request : Request} {a : App} (ha : t.app p.app = .ok a) : Effect p t ⟨p.app, .loaded request a⟩ t
  | numbers {a : App} {n : DeploymentNumber} {e : Environment} {requested : Signature}
      (hphase : p.phase = .loaded (.deployment e requested) a) (hn : t.nextNumber p.app = .ok n) :
    Effect p t ⟨p.app, .numbered a n e requested⟩ t
  | marks {a : App} {requested : Signature} {t' : Tables} {result : Except CommandError Unit}
      (hphase : p.phase = .loaded (.cleanup requested) a)
      (hwritten : (Aggregate.pending (a.requestCleanup requested)).foldlM Tables.applyAppEvent t = .ok t') :
    Effect p t ⟨p.app, .ended result⟩ t'
  | asks {a : App} {n : DeploymentNumber} {e : Environment} {requested : Signature} {d : Deployment} {t' : Tables}
      {result : Except CommandError Unit} (hphase : p.phase = .numbered a n e requested)
      (hd : a.newDeployment n e requested = .ok d)
      (hwritten : (Aggregate.pending d).foldlM Tables.applyDeploymentEvent t = .ok t') :
    Effect p t ⟨p.app, .ended result⟩ t'

theorem andThen_cases {β : Type} {question : Tables → Except StoreError β} {next : β → RequestPhase}
    (h : p.andThen (s.query question) next = (p', s')) :
    s'.db.tables = s.db.tables ∧
      ((∃ result, p' = ⟨p.app, .ended result⟩) ∨ ∃ b, question s.db.tables = .ok b ∧ p' = ⟨p.app, next b⟩) := by
  rcases s.query_cases question with ⟨error, store, hquery, htables⟩ | ⟨b, store, hquery, hanswer, htables⟩
  · simp only [andThen, hquery] at h
    cases h
    exact ⟨htables, .inl ⟨_, rfl⟩⟩
  · simp only [andThen, hquery] at h
    cases h
    exact ⟨htables, .inr ⟨b, hanswer, rfl⟩⟩

/-- A call ends without a trace, or has written what it came to. -/
theorem finish_cases {A ε : Type} [Aggregate A ε] {built : Except AppError A} (h : p.finish built s = (p', s')) :
    ∃ result, p' = ⟨p.app, .ended result⟩ ∧ (s'.db.tables = s.db.tables ∨
      ∃ a, built = .ok a ∧ (Aggregate.pending a).foldlM (Aggregate.apply A) s.db.tables = .ok s'.db.tables) := by
  cases h
  refine ⟨_, rfl, ?_⟩
  cases built with
  | error e => exact .inl rfl
  | ok a =>
    rcases s.write_cases [a] with ⟨error, k, hwrite⟩ | ⟨result, tables, k, hub, happlied, -, hwrite⟩
    · refine .inl ?_
      simp only [Store.commit, hwrite]
      exact Database.tables_skip
    · rw [pendingEvents, List.flatMap_singleton] at happlied
      refine .inr ⟨a, rfl, ?_⟩
      cases result <;> simpa only [Store.commit, hwrite] using happlied

/-- **A step has one of the effects**, unless the call has ended. -/
theorem effect_of_step (h : p.step s = (p', s')) :
    Effect p s.db.tables p' s'.db.tables := by
  unfold step at h
  split at h
  case h_1 request hphase =>
    obtain ⟨htables, ⟨result, rfl⟩ | ⟨a, ha, rfl⟩⟩ := andThen_cases h
    · rw [htables]
      exact .ends
    · rw [htables]
      exact .loads ha
  case h_2 requested a hphase =>
    obtain ⟨result, rfl, htables | ⟨a', ha', hwritten⟩⟩ := finish_cases h
    · rw [htables]
      exact .ends
    · cases ha'
      exact .marks hphase hwritten
  case h_3 e requested a hphase =>
    obtain ⟨htables, ⟨result, rfl⟩ | ⟨n, hn, rfl⟩⟩ := andThen_cases h
    · rw [htables]
      exact .ends
    · rw [htables]
      exact .numbers hphase hn
  case h_4 a n e requested hphase =>
    obtain ⟨result, rfl, htables | ⟨d, hd, hwritten⟩⟩ := finish_cases h
    · rw [htables]
      exact .ends
    · exact .asks hphase hd hwritten
  case h_5 result hphase =>
    cases h
    obtain ⟨app, phase⟩ := p
    cases hphase
    exact .ends

end RequestCall

/-! ## What a call has found out -/

namespace Tables

variable {t t' : Tables} {a : App} {app : AppId} {issued : List AppId}

theorem isNamed_of_app (ha : t.app app = .ok a) : t.IsNamed app a.name := by
  obtain ⟨r, hr, hshows⟩ := app_eq_ok.mp ha
  exact ⟨r, hr, hshows.name⟩

/-- A request for a cleanup creates no app. -/
theorem retains_of_requestCleanup {requested : Signature} (hevents : a.events = .empty)
    (hwritten : (Aggregate.pending (a.requestCleanup requested)).foldlM applyAppEvent t = .ok t') :
    Retains issued [] t t' := by
  by_cases hmarked : a.cleanupRequested.isSome = true
  · have hpending : Aggregate.pending (a.requestCleanup requested) = [] := by
      rw [App.requestCleanup, if_pos hmarked]
      show a.events.drain.1 = []
      rw [hevents]
      rfl
    rw [hpending] at hwritten
    cases hwritten
    exact .of_eq rfl rfl
  · have hpending : Aggregate.pending (a.requestCleanup requested) = [.cleanupRequested a.id requested] := by
      rw [App.requestCleanup, if_neg hmarked]
      show (a.events.record _).drain.1 = _
      rw [hevents]
      rfl
    rw [hpending] at hwritten
    exact retains_of_appEvents (List.forall_mem_singleton.mpr rfl)
      (List.forall_mem_singleton.mpr fun b hb => by cases hb) hwritten

/-- A deployment is asked for in order, if all smaller numbers are in use while the app is stored. -/
theorem asks_of_newDeployment {n : DeploymentNumber} {e : Environment} {requested : Signature} {d : Deployment}
    (hd : a.newDeployment n e requested = .ok d)
    (hnamed : (t.app? a.id).isSome = true → t.IsNamed a.id a.name) (hpos : 0 < n.toNat)
    (hsmaller : (t.app? a.id).isSome = true → ∀ m : DeploymentNumber, 0 < m.toNat → m.toNat < n.toNat →
      (t.deployment? ⟨a.id, m⟩).isSome = true)
    (hwritten : (Aggregate.pending d).foldlM applyDeploymentEvent t = .ok t') :
    t.Asks (Aggregate.cleared d) t' := by
  rw [App.newDeployment, bind_eq_ok] at hd
  obtain ⟨-, -, hd⟩ := hd
  cases pure_eq_ok.mp hd
  obtain ⟨t₁, hinsert, hrest⟩ := Database.exists_of_foldlM_cons hwritten
  cases hrest
  have hstored : (t.app? a.id).isSome = true :=
    (isFree_of_insertDeployment (DeploymentRow.isOf_iff.mpr ⟨rfl, rfl⟩) hinsert).1
  exact ⟨rfl, rfl, hnamed hstored, hpos, hsmaller hstored, hinsert⟩

end Tables

namespace RequestCall

variable {p p' : RequestCall} {t t' : Tables} {issued new : List AppId}

/-- The app as the call has loaded it. -/
def copy? (p : RequestCall) : Option App :=
  match p.phase with
  | .loaded _ a | .numbered a _ _ _ => some a
  | _ => none

def number? (p : RequestCall) : Option DeploymentNumber :=
  match p.phase with
  | .numbered _ n _ _ => some n
  | _ => none

/-- What the call has found out is still true, unless its app is gone. -/
structure Sound (issued : List AppId) (t : Tables) (p : RequestCall) : Prop where
  id : ∀ a, p.copy? = some a → a.id = p.app
  events : ∀ a, p.copy? = some a → a.events = .empty
  issued : ∀ a, p.copy? = some a → p.app ∈ issued
  named : ∀ a, p.copy? = some a → (t.app? p.app).isSome = true → t.IsNamed p.app a.name
  pos : ∀ n, p.number? = some n → 0 < n.toNat
  smaller : ∀ n, p.number? = some n → (t.app? p.app).isSome = true → ∀ m : DeploymentNumber, 0 < m.toNat →
    m.toNat < n.toNat → (t.deployment? ⟨p.app, m⟩).isSome = true

theorem Sound.of_copy?_eq_none (h : p.copy? = none) : p.Sound issued t := by
  have hnumber : p.number? = none := by
    obtain ⟨app, phase⟩ := p
    cases phase <;> first | rfl | cases h
  constructor
  case pos | smaller =>
    intro n hn
    cases hnumber.symm.trans hn
  all_goals
    intro a ha
    cases h.symm.trans ha

theorem isSome_copy? {n : DeploymentNumber} (h : p.number? = some n) : ∃ a, p.copy? = some a := by
  obtain ⟨app, phase⟩ := p
  cases phase <;> first | exact ⟨_, rfl⟩ | cases h

/-- What a call has found out is still true when others have changed the tables. -/
theorem Sound.of_spares (h : p.Sound issued t) (hspares : Tables.Spares issued t t') :
    p.Sound (new ++ issued) t' := by
  have hbefore (a : App) (ha : p.copy? = some a) (hsome : (t'.app? p.app).isSome = true) :
      (t.app? p.app).isSome = true := by
    obtain ⟨r', hr'⟩ := Option.isSome_iff_exists.mp hsome
    obtain ⟨r, hr, -⟩ := hspares.app p.app (h.issued a ha) r' hr'
    rw [hr]
    rfl
  refine ⟨h.id, h.events, fun a ha => List.mem_append_right _ (h.issued a ha), fun a ha hsome => ?_, h.pos,
    fun n hn hsome m hm hlt => ?_⟩
  · obtain ⟨r', hr'⟩ := Option.isSome_iff_exists.mp hsome
    obtain ⟨r, hr, hname⟩ := hspares.app p.app (h.issued a ha) r' hr'
    obtain ⟨r₀, hr₀, hread⟩ := h.named a ha (hbefore a ha hsome)
    cases hr.symm.trans hr₀
    exact ⟨r', hr', hname ▸ hread⟩
  · obtain ⟨a, ha⟩ := isSome_copy? hn
    exact hspares.deployment ⟨p.app, m⟩ (h.issued a ha) hsome (h.smaller n hn (hbefore a ha hsome) m hm hlt)

theorem Sound.of_keeps (h : p.Sound issued t) (hfiled : t.Filed) (hkeeps : Tables.Keeps issued t t') :
    p.Sound (new ++ issued) t' :=
  h.of_spares (hkeeps.spares hfiled)

/-- The app that has been loaded is the one on record. -/
theorem Sound.of_loaded {app : AppId} {request : Request} {a : App} (hwithin : t.Within issued)
    (ha : t.app app = .ok a) : Sound issued t ⟨app, .loaded request a⟩ := by
  obtain ⟨r, hr, hshows⟩ := Tables.app_eq_ok.mp ha
  constructor
  case id =>
    rintro b ⟨⟩
    exact Tables.id_of_app?_shows hr hshows
  case events =>
    rintro b ⟨⟩
    exact hshows.events
  case issued => exact fun b hb => hwithin app (by rw [hr]; rfl)
  case named =>
    rintro b ⟨⟩ _
    exact Tables.isNamed_of_app ha
  case pos | smaller =>
    intro n hn
    cases hn

/-- The number that has been found comes right after all that are there. -/
theorem Sound.of_numbered {a : App} {n : DeploymentNumber} {e : Environment} {requested : Signature}
    (hsound : p.Sound issued t) (hfiled : t.Filed) (hphase : p.phase = .loaded (.deployment e requested) a)
    (hn : t.nextNumber p.app = .ok n) : Sound issued t ⟨p.app, .numbered a n e requested⟩ := by
  have hcopy : p.copy? = some a := by rw [copy?, hphase]
  constructor
  case id =>
    rintro b ⟨⟩
    exact hsound.id a hcopy
  case events =>
    rintro b ⟨⟩
    exact hsound.events a hcopy
  case issued => exact fun b hb => hsound.issued a hcopy
  case named =>
    rintro b ⟨⟩
    exact hsound.named a hcopy
  case pos =>
    rintro k ⟨⟩
    exact hfiled.pos_of_nextNumber hn
  case smaller =>
    rintro k ⟨⟩ _ m hm hlt
    exact (hfiled.isSome_iff_of_nextNumber hn hm).mpr hlt

/-- **A step asks for more, if it changes anything**, and what the call knows after it is true. -/
theorem Effect.change (h : Effect p t p' t') (hsound : p.Sound issued t) (hfiled : t.Filed)
    (hwithin : t.Within issued) : Tables.Change issued t [] t' ∧ t.Extends t' ∧ p'.Sound issued t' := by
  cases h with
  | ends => exact ⟨.retains (.of_eq rfl rfl), .of_eq rfl, .of_copy?_eq_none rfl⟩
  | loads ha => exact ⟨.retains (.of_eq rfl rfl), .of_eq rfl, .of_loaded hwithin ha⟩
  | numbers hphase hn => exact ⟨.retains (.of_eq rfl rfl), .of_eq rfl, hsound.of_numbered hfiled hphase hn⟩
  | @marks a requested _ result hphase hwritten =>
    have hcopy : p.copy? = some a := by rw [copy?, hphase]
    have hretains : Tables.Retains issued [] t t' :=
      Tables.retains_of_requestCleanup (hsound.events a hcopy) hwritten
    exact ⟨.retains hretains, .of_eq hretains.deployments, .of_copy?_eq_none rfl⟩
  | @asks a n e requested d _ result hphase hd hwritten =>
    have hcopy : p.copy? = some a := by rw [copy?, hphase]
    have hnumber : p.number? = some n := by rw [number?, hphase]
    have hid := hsound.id a hcopy
    have hasks : t.Asks (Aggregate.cleared d) t' := by
      refine Tables.asks_of_newDeployment hd ?_ (hsound.pos n hnumber) ?_ hwritten
      · exact hid ▸ hsound.named a hcopy
      · exact hid ▸ hsound.smaller n hnumber
    exact ⟨.asks hasks, hasks.extends hfiled, .of_copy?_eq_none rfl⟩

end RequestCall

end Rollout
