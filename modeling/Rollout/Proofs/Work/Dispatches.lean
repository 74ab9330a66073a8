import Rollout.Proofs.Queue.Supersession
import Rollout.Proofs.Work.Keys
import Rollout.System.Jobs

/-!
# Deployments handed to the scheduler

Events of deployments may reach the scheduler in any order and more than once. As long as no job is taken off the queue,
one job waits for each environment that a deployment was asked for, and its deployment is the one whose event came last
(`waiting_of_dispatches`). This is the newest deployment if the events of an environment come in the order of their
numbers; the event of an older one that comes again afterwards takes its place (`older_waits_of_redispatch`).
-/

namespace Rollout

/-- A deployment that was asked for, as its event tells of it. -/
structure AskedDeployment where
  app : AppId
  number : DeploymentNumber
  environment : Environment
  target : TargetId
  vars : Option EnvVars
  requested : Signature
deriving DecidableEq

namespace AskedDeployment

/-- Whether both deployments are of one environment of one app. -/
def isBeside (d d' : AskedDeployment) : Bool := d.app = d'.app && d.environment = d'.environment

section Names

/-! Every app has a name, which does not change. -/

variable (names : AppId → AppName) (d d' : AskedDeployment)

def event : DeploymentEvent :=
  .created ⟨d.app, d.number⟩ ⟨names d.app, d.environment, d.target, d.vars⟩ .initial d.requested

def notice : Notice Payload := (d.event names).notice

/-- The key of the jobs for the deployment's environment. -/
def key : String := Work.deployKey d.app (projectName (names d.app) d.environment)

def prepared : Prepared Work := ⟨.deploy d.app d.number, some (d.key names)⟩

theorem key_eq_iff : d.key names = d'.key names ↔ d.isBeside d' = true := by
  simp only [key, isBeside, Work.deployKey_inj, projectName_inj, Bool.and_eq_true, decide_eq_true_eq]
  constructor
  · rintro ⟨happ, -, he⟩
    exact ⟨happ, he⟩
  · rintro ⟨happ, he⟩
    exact ⟨happ, by rw [happ], he⟩

/-- The jobs under the key of a deployment are those for its environment. -/
theorem filter_prepared (ds : List AskedDeployment) :
    (ds.map (prepared names)).filter (·.key = some (d.key names)) =
      (ds.filter (·.isBeside d)).map (prepared names) := by
  rw [List.filter_map]
  refine congrArg (List.map _) (List.filter_congr fun d' _ => ?_)
  have hkey : (d'.prepared names).key = some (d.key names) ↔ d'.isBeside d = true :=
    Option.some_inj.trans (key_eq_iff names d' d)
  simp only [Function.comp, hkey, Bool.decide_eq_true]

end Names

end AskedDeployment

namespace System

/-- Hands events to the subscribers of the bus one after another, each whatever became of those before it. -/
def dispatchEach (s : System) : List (Notice Payload) → List (Except DispatchError Unit) × System
  | [] => ([], s)
  | n :: ns =>
    let (result, s) := s.dispatch n
    let (results, s) := s.dispatchEach ns
    (result :: results, s)

variable {s : System} (names : AppId → AppName)

theorem dispatch_notice (hbus : s.store.bus = [.scheduler]) (d : AskedDeployment) :
    s.dispatch (d.notice names) = (.ok (), s.withQueue (s.queue.enqueue (d.prepared names)).2) := by
  obtain ⟨⟨db, bus, hub⟩, files, dataDir, now, runner, calls, worker⟩ := s
  cases hbus
  rfl

/-- Every event is accepted, and its job is enqueued. -/
theorem dispatchEach_notices (hbus : s.store.bus = [.scheduler]) (ds : List AskedDeployment) :
    s.dispatchEach (ds.map (·.notice names)) =
      (ds.map fun _ => .ok (), s.withQueue (s.queue.enqueueAll (ds.map (·.prepared names)))) := by
  induction ds generalizing s with
  | nil => rfl
  | cons d ds ih =>
    have hrest := @ih (s.withQueue (s.queue.enqueue (d.prepared names)).2) hbus
    rw [List.map_cons, dispatchEach, dispatch_notice names hbus]
    simp only [hrest]
    rfl

theorem data_waitingFor_dispatchEach (hbus : s.store.bus = [.scheduler]) (ds : List AskedDeployment)
    (d : AskedDeployment) :
    ((s.dispatchEach (ds.map (·.notice names))).2.queue.waitingFor (d.key names)).map (·.job.data) =
      match (ds.filter (·.isBeside d)).getLast? with
      | some last => [.deploy last.app last.number]
      | none => (s.queue.waitingFor (d.key names)).map (·.job.data) := by
  have hkeyed : ∀ p ∈ ds.map (AskedDeployment.prepared names), p.key.isSome = true := by
    intro p hp
    obtain ⟨d, -, rfl⟩ := List.mem_map.mp hp
    rfl
  have hqueue := s.queue.data_waitingFor_enqueueAll _ hkeyed (d.key names)
  rw [AskedDeployment.filter_prepared, List.getLast?_map] at hqueue
  rw [dispatchEach_notices names hbus]
  refine hqueue.trans ?_
  cases (ds.filter (·.isBeside d)).getLast? with
  | none => rfl
  | some last => rfl

end System

/-- The last of some numbers that only grow is the largest. -/
theorem number_le_of_pairwise {ds : List AskedDeployment} {d last : AskedDeployment}
    (h : ds.Pairwise (·.number.toNat ≤ ·.number.toNat)) (hlast : ds.getLast? = some last) (hd : d ∈ ds) :
    d.number.toNat ≤ last.number.toNat := by
  obtain ⟨before, rfl⟩ := List.getLast?_eq_some_iff.mp hlast
  rcases List.mem_append.mp hd with hd | hd
  · exact (List.pairwise_append.mp h).2.2 d hd last (List.mem_singleton.mpr rfl)
  · exact Nat.le_of_eq (congrArg (·.number.toNat) (List.mem_singleton.mp hd))

/-- **One job waits for each environment, for the deployment whose event came last.** -/
theorem waiting_of_dispatches (c : Config) (names : AppId → AppName) (ds : List AskedDeployment) :
    ∃ s, (System.ofConfig c).dispatchEach (ds.map (·.notice names)) = (ds.map fun _ => .ok (), s) ∧
      (∀ w ∈ s.queue.waiting, ∃ d ∈ ds, w.job.key = some (d.key names)) ∧
      ∀ d ∈ ds, ∃ w last, s.queue.waitingFor (d.key names) = [w] ∧ (ds.filter (·.isBeside d)).getLast? = some last ∧
        w.job.data = .deploy d.app last.number ∧
        ((ds.filter (·.isBeside d)).Pairwise (·.number.toNat ≤ ·.number.toNat) →
          ∀ d' ∈ ds, d'.isBeside d = true → d'.number.toNat ≤ last.number.toNat) := by
  have hbus : (System.ofConfig c).store.bus = [.scheduler] := rfl
  have hrun := System.dispatchEach_notices names hbus ds
  refine ⟨_, hrun, fun w hw => ?_, fun d hd => ?_⟩
  · rcases Queue.key_of_mem_waiting_enqueueAll hw with ⟨p, hp, hkey⟩ | hw
    · obtain ⟨d, hd, rfl⟩ := List.mem_map.mp hp
      exact ⟨d, hd, hkey⟩
    · cases hw
  · have hmem : d ∈ ds.filter (·.isBeside d) := List.mem_filter.mpr ⟨hd, by simp [AskedDeployment.isBeside]⟩
    obtain ⟨last, hlast⟩ := Option.isSome_iff_exists.mp (List.getLast?_isSome.mpr (List.ne_nil_of_mem hmem))
    have hbeside := (List.mem_filter.mp (List.mem_of_getLast? hlast)).2
    have hdata := System.data_waitingFor_dispatchEach names hbus ds d
    rw [hrun, hlast] at hdata
    obtain ⟨w, hw, hwork⟩ := List.map_eq_singleton_iff.mp hdata
    have happ : last.app = d.app := by
      simp only [AskedDeployment.isBeside, Bool.and_eq_true, decide_eq_true_eq] at hbeside
      exact hbeside.1
    exact ⟨w, last, hw, hlast, by rw [hwork, happ], fun hordered d' hd' hbeside' =>
      number_le_of_pairwise hordered hlast (List.mem_filter.mpr ⟨hd', hbeside'⟩)⟩

/-! ## An older deployment that comes again -/

namespace Redispatch

def name : AppName := ⟨"api", by decide⟩

def deployment (number : DeploymentNumber) : AskedDeployment :=
  ⟨default, number, .production, default, none, ⟨default, default⟩⟩

/-- The events of two deployments, and after them that of the first one again. -/
def asked : List AskedDeployment := [deployment ⟨1⟩, deployment ⟨2⟩, deployment ⟨1⟩]

end Redispatch

open Redispatch in
/-- The job of the newest deployment gives way to that of an older one. -/
theorem older_waits_of_redispatch :
    ∃ newest ∈ asked, ∃ older ∈ asked, older.number.toNat < newest.number.toNat ∧
      (((System.ofConfig (.forTests "data")).dispatchEach (asked.map (·.notice fun _ => name))).2.queue.waitingFor
        (newest.key fun _ => name)).map (·.job.data) = [.deploy newest.app older.number] := by
  refine ⟨deployment ⟨2⟩, by simp [asked], deployment ⟨1⟩, by simp [asked], by decide, ?_⟩
  rw [System.data_waitingFor_dispatchEach _ rfl]
  rfl

end Rollout
