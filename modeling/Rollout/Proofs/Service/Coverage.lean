import Mathlib.Data.List.Induction
import Rollout.Proofs.Service.Soundness

/-!
# Jobs for what has been asked for

Whatever happens on a service, a job that sees to a matter stays live until the matter is over, is followed by newer
work of its key, or is buried (`Service.Sound.hasJob_cases`). So every deployment that waits and every request for a
cleanup has a job that is live, or has been given up for good (`attended`). Only a deployment that is left running by
its job may lose that job to a newer deployment (`GivenUp`).
-/

namespace Rollout

namespace Service

variable {s s' : Service} {w : Work} {x : Matter}

/-- A job with this work waits or runs. -/
def HasJob (s : Service) (w : Work) : Prop := ∃ id job, s.queue.Live id job ∧ job.data = w

/-- A job with this work is among the dead letters that are remembered. -/
def HasBuried (s : Service) (w : Work) : Prop := ∃ letter ∈ s.queue.deadLetters, letter.job.data = w

theorem hasJob_of_enqueue {p : Prepared Work} (hqueue : s'.queue = (s.queue.enqueue p).2) : s'.HasJob p.data := by
  refine ⟨s.queue.created + 1, (s.queue.entry p).job, ?_, rfl⟩
  rw [hqueue]
  exact QueueState.live_enqueue_self s.queue.toQueueState p

namespace Sound

theorem seesTo_of_turns (h : s.Sound) (hturns : s.Turns s') (hsees : w.SeesTo s.tables x) (hx : s.tables.Shows x)
    (hx' : s'.tables.Shows x) : w.SeesTo s'.tables x := by
  obtain ⟨new, -, hchange⟩ := hturns.change
  exact hsees.of_keeps h.within (hchange.keeps h.filed) h.filed (hchange.filed h.filed) hx hx'

/-- A matter that comes up has a job. -/
theorem hasJob_of_new (h : s.Sound) (hturns : s.Turns s') (hx : ¬s.tables.Shows x) (hx' : s'.tables.Shows x) :
    ∃ w, w.SeesTo s'.tables x ∧ s'.HasJob w := by
  cases hturns.moves with
  | stays hqueue _ hnew =>
    obtain ⟨job, hjob, hsees⟩ := (hnew x hx').resolve_left hx
    exact ⟨job.data, hsees, job.id, job, hqueue ▸ h.live hjob, rfl⟩
  | @enqueues p hqueue _ _ hnew _ =>
    exact ⟨p.data, (hnew x hx').resolve_left hx, hasJob_of_enqueue hqueue⟩
  | takes _ _ _ _ htables | marks _ _ _ htables _ => exact absurd (htables ▸ hx') hx

/-- The job that is running is known by its identifier. -/
theorem eq_of_live (h : s.Sound) {job job' : Job Work} (hjob : s.duty.job? = some job)
    (hl : s.queue.Live job.id job') : job' = job := by
  have hruns := (h.runs job.id job).mpr ⟨hjob, rfl⟩
  rcases hl with ⟨v, hv, -⟩ | hr
  · exact absurd (mem_of_getElem? hruns) ((linked s).not_mem_running (mem_of_getElem? hv))
  · exact Option.some.inj (hr.symm.trans hruns)

/-- **A job that sees to a matter stays live, is buried, or is followed by work with its key.** -/
theorem hasJob_cases (h : s.Sound) (hturns : s.Turns s') (hx : s.tables.Shows x) (hsees : w.SeesTo s.tables x)
    (hw : s.HasJob w) :
    s'.HasJob w ∨ s'.HasBuried w ∨ ∃ w' key, s'.HasJob w' ∧ w'.Follows w ∧
      Work.Sound s'.issued s'.tables w' key ∧ Work.Sound s'.issued s'.tables w key := by
  obtain ⟨id, job, hl, rfl⟩ := hw
  have hsound : Work.Sound s'.issued s'.tables job.data job.key := by
    obtain ⟨new, hissued, hchange⟩ := hturns.change
    rw [hissued]
    exact (h.jobs id job hl).of_keeps (hchange.keeps h.filed)
  cases hturns.moves with
  | stays hqueue _ _ => exact .inl ⟨id, job, hqueue ▸ hl, rfl⟩
  | @enqueues p hqueue _ hp _ hfollows =>
    rcases (linked s).live_of_enqueue p hl with hl' | ⟨k, hpk, hk⟩
    · exact .inl ⟨id, job, hqueue ▸ hl', rfl⟩
    · have hkey : job.key = p.key := hk.trans hpk.symm
      exact .inr (.inr ⟨p.data, p.key, hasJob_of_enqueue hqueue, hfollows id job hl hkey, hp, hkey ▸ hsound⟩)
  | takes hw hqueue _ _ _ =>
    refine .inl ⟨id, job, ?_, rfl⟩
    have hl' := (linked s).live_handOut_of_live hw hl
    rw [← hqueue] at hl'
    exact hl'
  | @marks job' result hjob hmarked _ htables hdone =>
    by_cases hid : id = job'.id
    · subst hid
      obtain rfl := h.eq_of_live hjob hl
      have hruns := (h.runs job.id job).mpr ⟨hjob, rfl⟩
      rcases hmarked.cases_of_error (linked s) hruns with
        hok | ⟨i, v, k, hv, hvk, hk, hl'⟩ | ⟨i, j, hl', hdata⟩ | ⟨letter, hletter, rfl⟩
      · exact absurd hsees ((hdone hok).not_seesTo h.filed h.orderly hx)
      · -- what waits with the key of the job is newer
        have hkey : v.job.key = job.key := hvk.trans hk.symm
        have hfollows := h.ahead job hjob i v hv hkey
        have hsound' := h.jobs_of_turns hturns hl'
        exact .inr (.inr ⟨v.job.data, v.job.key, ⟨i, v.job, hl', rfl⟩, hfollows, hsound', hkey ▸ hsound⟩)
      · exact .inl ⟨i, j, hl', hdata⟩
      · exact .inr (.inl ⟨letter, hletter, rfl⟩)
    · exact .inl ⟨id, job, hmarked.live_of_ne (linked s) hl hid, rfl⟩

end Sound

end Service

/-! ## Histories -/

/-- A service with nothing in it, after some incidents. -/
def serviceAfter (c : Config) (is : List Incident) : Service := (Service.ofConfig c).run is

/-- A job with this work has been buried by some of the incidents. -/
def Buried (c : Config) (is : List Incident) (w : Work) : Prop :=
  ∃ before after, is = before ++ after ∧ (serviceAfter c before).HasBuried w

/-- The job of a deployment was dropped while the deployment was running, with a newer one of its environment to be
carried out. -/
def GivenUp (c : Config) (is : List Incident) (id : DeploymentId) : Prop :=
  ∃ before i after m, is = before ++ i :: after ∧
    (serviceAfter c before).tables.HasStatus id .running ∧
    (serviceAfter c before).HasJob (.deploy id.app id.number) ∧
    ¬(serviceAfter c (before ++ [i])).HasJob (.deploy id.app id.number) ∧
    id.number.toNat < m.toNat ∧
    (serviceAfter c (before ++ [i])).tables.environment? ⟨id.app, m⟩ =
      (serviceAfter c (before ++ [i])).tables.environment? id ∧
    (serviceAfter c (before ++ [i])).HasJob (.deploy id.app m)

section Histories

variable {c : Config} {is : List Incident} {i : Incident} {w : Work} {x : Matter} {id : DeploymentId}

theorem serviceAfter_concat (c : Config) (is : List Incident) (i : Incident) :
    serviceAfter c (is ++ [i]) = (serviceAfter c is).perform i := Service.run_concat ..

theorem Buried.concat (h : Buried c is w) (i : Incident) : Buried c (is ++ [i]) w := by
  obtain ⟨before, after, rfl, hburied⟩ := h
  exact ⟨before, after ++ [i], List.append_assoc .., hburied⟩

theorem GivenUp.concat (h : GivenUp c is id) (i : Incident) : GivenUp c (is ++ [i]) id := by
  obtain ⟨before, j, after, m, rfl, hrest⟩ := h
  exact ⟨before, j, after ++ [i], m, by simp, hrest⟩

theorem not_shows_empty (x : Matter) : ¬Tables.empty.Shows x := by
  cases x with
  | waiting | running | leaving =>
    rintro ⟨r, hr, -⟩
    cases hr

theorem Service.sound_ofConfig (c : Config) : (Service.ofConfig c).Sound where
  wired := ⟨[], rfl, List.forall_mem_nil _⟩
  filed := Tables.filed_empty
  within app hsome := by cases hsome
  orderly d o hd := by cases hd
  jobs id job hl := by
    rcases hl with ⟨w, hw, -⟩ | hr
    · simp [ofConfig, queue, System.queue, System.ofConfig, System.empty, Queue.empty, QueueState.empty] at hw
    · simp [ofConfig, queue, System.queue, System.ofConfig, System.empty, Queue.empty, QueueState.empty] at hr
  runs id job := by
    simp [ofConfig, queue, System.queue, System.ofConfig, System.empty, Queue.empty, QueueState.empty, Duty.job?]
  ahead job hjob := by cases hjob
  duty := .idle

theorem sound_serviceAfter (c : Config) (is : List Incident) : (serviceAfter c is).Sound :=
  Service.run_induction (fun _ i h => h.perform i) (Service.sound_ofConfig c) is

/-- Every matter has a job that is live or has been buried, except for running deployments that have been given up. -/
theorem attended (c : Config) (is : List Incident) (x : Matter) (hx : (serviceAfter c is).tables.Shows x) :
    (∃ w : Work, w.SeesTo (serviceAfter c is).tables x ∧ ((serviceAfter c is).HasJob w ∨ Buried c is w)) ∨
      ∃ id, x = .running id ∧ GivenUp c is id := by
  induction is using List.reverseRecOn with
  | nil => exact absurd hx (not_shows_empty x)
  | append_singleton is i ih =>
    have hsound := sound_serviceAfter c is
    have hturns := hsound.turns i
    rw [← serviceAfter_concat] at hturns
    by_cases hbefore : (serviceAfter c is).tables.Shows x
    · rcases ih hbefore with ⟨w, hsees, hjob | hburied⟩ | ⟨id, rfl, hgiven⟩
      · have hsees' := hsound.seesTo_of_turns hturns hsees hbefore hx
        by_cases hjob' : (serviceAfter c (is ++ [i])).HasJob w
        · exact .inl ⟨w, hsees', .inl hjob'⟩
        · rcases hsound.hasJob_cases hturns hbefore hsees hjob with
            hlive | hburied | ⟨w', key, hfollower, hfollows, hw', hw⟩
          · exact absurd hlive hjob'
          · exact .inl ⟨w, hsees', .inr ⟨is ++ [i], [], (List.append_nil _).symm, hburied⟩⟩
          · have hfiled := (hsound.of_turns hturns).filed
            rcases hsees'.of_follows hfollows hfiled hw' hw hx with hsees | ⟨id, m, rfl, rfl, hlt, henvironment⟩
            · exact .inl ⟨w', hsees, .inl hfollower⟩
            · cases hsees with
              | running =>
                exact .inr ⟨id, rfl, is, i, [], m, rfl, hbefore, hjob, hjob', hlt, henvironment, hfollower⟩
      · exact .inl ⟨w, hsound.seesTo_of_turns hturns hsees hbefore hx, .inr (hburied.concat i)⟩
      · exact .inr ⟨id, rfl, hgiven.concat i⟩
    · obtain ⟨w, hsees, hjob⟩ := hsound.hasJob_of_new hturns hbefore hx
      exact .inl ⟨w, hsees, .inl hjob⟩

/-- **What has been asked for has a job**, or had one that was buried: for every deployment that waits a job of its
environment that is for it or a newer one, and for every request for a cleanup its own. -/
theorem requests_covered (c : Config) (is : List Incident) :
    (∀ id, (serviceAfter c is).tables.HasStatus id .pending →
      ∃ m : DeploymentNumber, id.number.toNat ≤ m.toNat ∧
        (serviceAfter c is).tables.environment? ⟨id.app, m⟩ = (serviceAfter c is).tables.environment? id ∧
        ((serviceAfter c is).HasJob (.deploy id.app m) ∨ Buried c is (.deploy id.app m))) ∧
    ∀ app, (serviceAfter c is).tables.Leaves app →
      (serviceAfter c is).HasJob (.cleanup app) ∨ Buried c is (.cleanup app) := by
  constructor
  · intro id hwaits
    rcases attended c is (.waiting id) hwaits with ⟨w, hsees, hjob⟩ | ⟨_, hrunning, -⟩
    · cases hsees with
      | waiting hle henvironment => exact ⟨_, hle, henvironment, hjob⟩
    · cases hrunning
  · intro app hleaves
    rcases attended c is (.leaving app) hleaves with ⟨w, hsees, hjob⟩ | ⟨_, hrunning, -⟩
    · cases hsees with
      | leaving => exact hjob
    · cases hrunning

end Histories

/-! ## A shop -/

namespace Shop

def environment : EnvConfig := ⟨default, default, none⟩

def input : NewApp := ⟨⟨"cafes", by decide⟩, environment, environment, none⟩

def signature : Signature := ⟨default, default⟩

def config : Config := .forTests "data"

/-- There is one target, and a recorder that refuses everything but need not be among the subscribers. -/
def surroundings (bystanders : List { b : Subscriber // b.isAside = true }) : Surroundings where
  targets := [⟨default, false⟩]
  isClosed := false
  faults := []
  bystanders
  recorders := [⟨[], 0, fun _ => true⟩]
  files := .empty
  now := 0
  runner := fun _ => []
  worker := config.worker

def order : Incident := .call (.request default (.deployment .production signature))

/-- An app is created, and a first deployment of it is asked for. -/
def opening : List Incident :=
  [.surround (surroundings []), .call (.change ⟨default, .create input signature⟩), order]

/-- The cleanup of the app is requested while its deployment still waits. -/
def closing : List Incident := opening ++ [.call (.request default (.cleanup signature))]

def first : DeploymentId := ⟨default, ⟨1⟩⟩

theorem waits_closing : (serviceAfter config closing).tables.HasStatus first .pending := by
  have hstatus : ((serviceAfter config closing).tables.deployment? first).map (·.status) = some (.value .pending) := by
    decide +kernel
  exact Option.map_eq_some_iff.mp hstatus

theorem leaves_closing : (serviceAfter config closing).tables.Leaves first.app := by
  have hmarked : ((serviceAfter config closing).tables.app? first.app).map (fun r => (r.cleanupAt, r.cleanupBy)) =
      some (.value (some default), .value (some default)) := by decide +kernel
  obtain ⟨r, hr, hcleanup⟩ := Option.map_eq_some_iff.mp hmarked
  obtain ⟨hat, hby⟩ := Prod.mk.inj hcleanup
  exact ⟨r, hr, default, default, by rw [hat]; rfl, by rw [hby]; rfl⟩

end Shop

open Shop in
/-- Both the deployment and the cleanup of the shop have a job. -/
theorem requests_covered_shop :
    (∃ m : DeploymentNumber, first.number.toNat ≤ m.toNat ∧
      (serviceAfter config closing).tables.environment? ⟨first.app, m⟩ =
        (serviceAfter config closing).tables.environment? first ∧
      ((serviceAfter config closing).HasJob (.deploy first.app m) ∨ Buried config closing (.deploy first.app m))) ∧
    ((serviceAfter config closing).HasJob (.cleanup first.app) ∨ Buried config closing (.cleanup first.app)) := by
  obtain ⟨hwaiting, hleaving⟩ := requests_covered config closing
  exact ⟨hwaiting first waits_closing, hleaving first.app leaves_closing⟩

end Rollout
