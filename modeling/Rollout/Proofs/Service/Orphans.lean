import Mathlib
import Rollout.Proofs.Command.Interruption
import Rollout.Proofs.Service.Coverage

/-!
# Deployments that are left running

A deployment whose outcome could not be recorded stays on record as running, and its own job closes it when it is run
again (`System.hasStatus_deploy`). That job is live or buried, or it was dropped while another one was to carry out a
newer deployment of the environment (`GivenUp`). It comes to that if the start of a deployment is stored but does not
get through to all subscribers, and another deployment is asked for before the job is marked (`Shop.stranding`).
-/

namespace Rollout

namespace Service

variable {s s' : Service} {w : Work}

/-- A mark of a job whose retry is covered by a waiting one settles it. -/
theorem mark_of_covered {job : Job Work} {other : JobId} {e : JobError} (hruns : s.queue.running[job.id]? = some job)
    (hkind : e.failureKind = .retryable ∧ job.attempt < s.queue.policy.maxAttempts)
    (hcovered : s.queue.covering? job = some other) :
    (s.mark job (.error e)).tables = s.tables ∧ (s.mark job (.error e)).duty = .idle ∧
      (s.mark job (.error e)).queue.toQueueState = s.queue.settle job.id .failed := by
  have hmarked : s.system.queue.toQueueState.markFailed s.system.now job.id e.message e.failureKind =
      (.ok .failed, s.queue.settle job.id .failed) := QueueState.markFailed_of_covered hruns hkind hcovered
  have hqueue : s.system.queue.mark s.system.now job.id (.error e) =
      .ok (.failed, ⟨(s.system.queue.toQueueState.markFailed s.system.now job.id e.message e.failureKind).2,
        s.system.queue.linked.markFailed s.system.now job.id e.message e.failureKind⟩) :=
    congrArg (fun r : Except JobError JobStatus => r.map fun status => (status, _)) (congrArg Prod.fst hmarked)
  rw [mark, hqueue]
  exact ⟨rfl, rfl, congrArg Prod.snd hmarked⟩

namespace Sound

/-- Some dead letter is remembered once something has been buried. -/
theorem deadLetters_ne_nil_of_turns (hturns : s.Turns s') (hsome : s.queue.deadLetters ≠ []) :
    s'.queue.deadLetters ≠ [] := by
  cases hturns.moves with
  | stays hqueue _ _ => rwa [hqueue]
  | @enqueues p hqueue _ _ _ _ =>
    rw [hqueue]
    exact (linked s).deadLetters_enqueue_ne_nil hsome p
  | takes _ hqueue _ _ _ =>
    rw [hqueue]
    exact hsome
  | marks _ hmarked _ _ _ => exact hmarked.deadLetters_ne_nil (linked s) hsome

/-- If the worker is idle, the live jobs are those that wait. -/
theorem exists_waiting_of_hasJob (h : s.Sound) (hidle : s.duty.job? = none) (hw : s.HasJob w) :
    ∃ id ∈ s.queue.order, ∃ v, s.queue.pending[id]? = some v ∧ v.job.data = w := by
  obtain ⟨id, job, ⟨v, hv, rfl⟩ | hruns, rfl⟩ := hw
  · exact ⟨id, ((linked s).indexed.mem_order_iff id).mpr (mem_of_getElem? hv), v, hv, rfl⟩
  · cases hidle.symm.trans ((h.runs id job).mp hruns).1

end Sound

end Service

theorem deadLetters_ne_nil_append {c : Config} {before : List Incident} (after : List Incident)
    (h : (serviceAfter c before).queue.deadLetters ≠ []) :
    (serviceAfter c (before ++ after)).queue.deadLetters ≠ [] := by
  induction after using List.reverseRecOn with
  | nil => rwa [List.append_nil]
  | append_singleton after i ih =>
    rw [← List.append_assoc, serviceAfter_concat]
    exact Service.Sound.deadLetters_ne_nil_of_turns ((sound_serviceAfter c (before ++ after)).turns i) ih

/-- If no dead letters are remembered, there have never been any. -/
theorem not_buried {c : Config} {is : List Incident} (hnone : (serviceAfter c is).queue.deadLetters = []) (w : Work) :
    ¬Buried c is w := by
  rintro ⟨before, after, rfl, letter, hletter, -⟩
  exact deadLetters_ne_nil_append after (List.ne_nil_of_mem hletter) hnone

/-- **A deployment that runs on record has its own job**, whose next run records the outcome if the store grants all
accesses. Else that job has been buried, or was dropped with a newer deployment to be carried out. -/
theorem running_covered (c : Config) (is : List Incident) (id : DeploymentId)
    (hruns : (serviceAfter c is).tables.HasStatus id .running) :
    ((serviceAfter c is).HasJob (.deploy id.app id.number) ∧
      ∀ context holds, context.stop? (serviceAfter c is).system.now = none →
        (serviceAfter c is).system.store.db.Grants 4 →
        ((serviceAfter c is).system.deploy id context holds).2.tables.HasStatus id .failed) ∨
      Buried c is (.deploy id.app id.number) ∨ GivenUp c is id := by
  rcases attended c is (.running id) hruns with ⟨w, hsees, hjob⟩ | ⟨_, hsame, hgiven⟩
  · cases hsees with
    | running =>
      refine hjob.imp (fun hjob => ⟨hjob, fun context holds hgo hgrants => ?_⟩) .inl
      exact System.hasStatus_deploy (sound_serviceAfter c is).filed hruns hgo hgrants holds
  · cases hsame
    exact .inr (.inr hgiven)

namespace Shop

def step : Incident := .work none true

/-- The first deployment is taken up. It is started when a subscriber refuses everything, so its command ends there. -/
def interruption : List Incident :=
  opening ++ [step, step, step, step, .surround (surroundings [⟨.recorder 0, rfl⟩]), step]

/-- A second deployment is asked for before the job of the first one is marked. -/
def stranding : List Incident := interruption ++ [step, .surround (surroundings []), order, step]

def firstJob : Job Work :=
  { id := 1, attempt := 1, data := .deploy first.app first.number
    key := some "deployment.deploy.00000000-0000-0000-0000-000000000000.cafes-production" }

def failure : CommandError :=
  .store (.undispatched 0 1 (.subscriber "deployment.state_changed" "recording dispatcher rejected event"))

theorem duty_interruption : (serviceAfter config interruption).duty =
    .deploying firstJob ⟨first, Worker.context config.worker none 0, true, .ended (.error failure)⟩ := by cbv

/-- The command has returned, whatever the text of its failure is, and the second deployment has been asked for. -/
def ordered (text : String) : Service :=
  Service.run { serviceAfter config interruption with duty := .returning firstJob (.error (.infra text)) }
    [.surround (surroundings []), order]

theorem stranding_eq : serviceAfter config stranding =
    (ordered failure.message).mark firstJob (.error (.infra failure.message)) := by
  have hreturns : (serviceAfter config interruption).work none true =
      { serviceAfter config interruption with duty := .returning firstJob (.error (.infra failure.message)) } := by
    rw [Service.work, duty_interruption]
    rfl
  have hduty (text : String) : (ordered text).duty = .returning firstJob (.error (.infra text)) := by cbv
  have hmarks (text : String) :
      (ordered text).work none true = (ordered text).mark firstJob (.error (.infra text)) := by
    rw [Service.work, hduty text]
  rw [← hmarks, ordered, ← hreturns, stranding, serviceAfter, Service.run_append]
  rfl

/-- The job of the first deployment is dropped for the one of the second. -/
theorem ordered_marked (text : String) :
    ((ordered text).mark firstJob (.error (.infra text))).tables = (ordered text).tables ∧
      ((ordered text).mark firstJob (.error (.infra text))).duty = .idle ∧
      ((ordered text).mark firstJob (.error (.infra text))).queue.toQueueState =
        (ordered text).queue.settle firstJob.id .failed := by
  have hattempts : (ordered text).queue.policy.maxAttempts = 3 := by cbv
  have hattempt : firstJob.attempt < (ordered text).queue.policy.maxAttempts := by
    rw [hattempts]
    decide
  have hruns : (ordered text).queue.running[firstJob.id]? = some firstJob := by cbv
  have hcovered : (ordered text).queue.covering? firstJob = some 2 := by cbv
  exact Service.mark_of_covered hruns ⟨rfl, hattempt⟩ hcovered

theorem runs_stranding : (serviceAfter config stranding).tables.HasStatus first .running := by
  rw [stranding_eq, (ordered_marked failure.message).1]
  generalize failure.message = text
  have hstatus : ((ordered text).tables.deployment? first).map (·.status) = some (.value .running) := by cbv
  exact Option.map_eq_some_iff.mp hstatus

/-- The only job is one for the second deployment. -/
theorem not_hasJob_stranding : ¬(serviceAfter config stranding).HasJob (.deploy first.app first.number) := by
  intro hjob
  have hsound := sound_serviceAfter config stranding
  rw [stranding_eq] at hjob hsound
  generalize failure.message = text at hjob hsound
  obtain ⟨-, hidle, hqueue⟩ := ordered_marked text
  obtain ⟨id, hid, v, hv, hdata⟩ := hsound.exists_waiting_of_hasJob (by rw [hidle]; rfl) hjob
  have horder : ((ordered text).queue.settle firstJob.id .failed).order = [2] := by cbv
  have hpending : (((ordered text).queue.settle firstJob.id .failed).pending[2]?).map (·.job.data) =
      some (.deploy first.app ⟨2⟩) := by cbv
  rw [hqueue, horder, List.mem_singleton] at hid
  rw [hqueue, hid] at hv
  rw [hv] at hpending
  exact absurd (hdata.symm.trans (Option.some.inj hpending)) (by decide)

theorem not_buried_stranding (w : Work) : ¬Buried config stranding w := by
  refine not_buried ?_ w
  rw [stranding_eq, (ordered_marked failure.message).2.2]
  generalize failure.message = text
  cbv

end Shop

open Shop in
/-- The first deployment of the shop has been given up. -/
theorem running_covered_stranding : GivenUp config stranding first :=
  ((running_covered config stranding first runs_stranding).resolve_left fun h => not_hasJob_stranding h.1).resolve_left
    (not_buried_stranding _)

/-- **A deployment that runs on record may be left without a job.** -/
theorem not_covered_stranding :
    ¬∀ (c : Config) (is : List Incident) (id : DeploymentId), (serviceAfter c is).tables.HasStatus id .running →
      (serviceAfter c is).HasJob (.deploy id.app id.number) ∨ Buried c is (.deploy id.app id.number) := by
  intro h
  rcases h Shop.config Shop.stranding Shop.first Shop.runs_stranding with hjob | hburied
  · exact Shop.not_hasJob_stranding hjob
  · exact Shop.not_buried_stranding _ hburied

end Rollout
