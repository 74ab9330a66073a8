import Rollout.Proofs.Queue.Supersession
import Rollout.Proofs.Store.Write

/-!
# What a write enqueues

On a store whose scheduler comes before all other subscribers, and is the only one (`Store.IsWired`), a write enqueues
the work that follows from its events in their order (`Store.queue_write`): all of it if the events reach everyone, and
else that of the events up to the one that was refused.
-/

namespace Rollout

/-- The work of carrying out a deployment. -/
def Work.ofDeployment (id : DeploymentId) (config : ConfigSnapshot) : Prepared Work :=
  ⟨.deploy id.app id.number, some (deployKey id.app config.projectName)⟩

/-- The work of cleaning up an app. -/
def Work.ofCleanup (app : AppId) : Prepared Work := ⟨.cleanup app, some (cleanupKey app)⟩

/-- The work that follows from an event. -/
def Payload.work? : Payload → Option (Prepared Work)
  | .deployment (.created id config _ _) => some (Work.ofDeployment id config)
  | .app (.cleanupRequested id _) => some (Work.ofCleanup id)
  | _ => none

theorem Work.prepare_eq (p : Payload) : registry.prepare p = .ok p.work? := by
  cases p with
  | app e => cases e <;> rfl
  | deployment e => cases e <;> rfl
  | foreign => rfl

/-- Whether the subscriber enqueues nothing, whatever happens. -/
def Subscriber.isAside : Subscriber → Bool
  | .recorder _ | .silent => true
  | _ => false

/-- The scheduler comes first, and nobody else enqueues anything. -/
def Store.IsWired (s : Store) : Prop := ∃ bs, s.bus = .scheduler :: bs ∧ ∀ b ∈ bs, b.isAside = true

section Dispatch

variable {bs : List Subscriber} {n : Notice Payload} {ns : List (Notice Payload)}

theorem queue_of_isAside {b : Subscriber} (hb : b.isAside = true) (n : Notice Payload) (h : Hub Work) :
    (b.dispatcher Work.registry n h).2.queue = h.queue := by
  cases b with
  | recorder i =>
    simp only [Subscriber.dispatcher, Hub.recorder]
    split <;> rfl
  | silent =>
    simp only [Subscriber.dispatcher]
    rfl
  | scheduler => cases hb
  | bus => cases hb

theorem queue_bus_asides (hbs : ∀ b ∈ bs, b.isAside = true) (n : Notice Payload) (h : Hub Work) :
    (Dispatcher.bus (dispatchersOf Work.registry bs) n h).2.queue = h.queue := by
  induction bs generalizing h with
  | nil => simp only [dispatchersOf, Dispatcher.bus]
  | cons b bs ih =>
    obtain ⟨hb, hbs⟩ := List.forall_mem_cons.mp hbs
    have hfirst := queue_of_isAside hb n h
    rw [dispatchersOf, Dispatcher.bus]
    split
    · next h₁ heq =>
      rw [heq] at hfirst
      exact (ih hbs h₁).trans hfirst
    · next h₁ heq =>
      rw [heq] at hfirst
      exact hfirst

/-- The scheduler enqueues the work that follows from an event, whatever becomes of the event after that. -/
theorem queue_bus (hbs : ∀ b ∈ bs, b.isAside = true) (n : Notice Payload) (h : Hub Work) :
    (Dispatcher.bus (dispatchersOf Work.registry (.scheduler :: bs)) n h).2.queue =
      h.queue.enqueueAll n.payload.work?.toList := by
  have hscheduler : Subscriber.scheduler.dispatcher Work.registry n h =
      (.ok (), { h with queue := h.queue.enqueueAll n.payload.work?.toList }) := by
    simp only [Subscriber.dispatcher, Hub.scheduler, Hub.schedule, Work.prepare_eq]
    cases n.payload.work? <;> rfl
  rw [dispatchersOf, Dispatcher.bus, hscheduler]
  exact queue_bus_asides hbs n _

/-- The events up to the first that is refused enqueue their work. -/
theorem queue_dispatchAll (hbs : ∀ b ∈ bs, b.isAside = true) (ns : List (Notice Payload)) (h : Hub Work) (done : Nat) :
    let d := Dispatcher.bus (dispatchersOf Work.registry (.scheduler :: bs))
    ∃ k, (Dispatcher.dispatchAll.go d done ns h).2.queue =
        h.queue.enqueueAll ((ns.take k).flatMap (·.payload.work?.toList)) ∧
      ((Dispatcher.dispatchAll.go d done ns h).1 = .ok () → ns.take k = ns) := by
  intro d
  induction ns generalizing h done with
  | nil => exact ⟨0, rfl, fun _ => rfl⟩
  | cons n ns ih =>
    have hfirst : (d n h).2.queue = h.queue.enqueueAll n.payload.work?.toList := queue_bus hbs n h
    rcases hd : d n h with ⟨_ | _, h₁⟩
    · rw [hd] at hfirst
      refine ⟨1, ?_, ?_⟩
      · simpa [Dispatcher.dispatchAll.go, hd] using hfirst
      · simp [Dispatcher.dispatchAll.go, hd]
    · rw [hd] at hfirst
      obtain ⟨k, hqueue, hall⟩ := ih h₁ (done + 1)
      refine ⟨k + 1, ?_, fun hok => ?_⟩
      · rw [List.take_succ_cons, List.flatMap_cons, Queue.enqueueAll, List.foldl_append, ← Queue.enqueueAll,
          ← Queue.enqueueAll, ← hfirst, ← hqueue]
        simp only [Dispatcher.dispatchAll.go, hd]
      · simp only [Dispatcher.dispatchAll.go, hd] at hok
        rw [List.take_succ_cons, hall hok]

end Dispatch

/-- The work that follows from events. -/
def workOf (A : Type) {ε : Type} [Aggregate A ε] (es : List ε) : List (Prepared Work) :=
  es.flatMap fun e => (Aggregate.notice A e).payload.work?.toList

namespace Store

variable {A ε : Type} [Aggregate A ε] {s : Store}

theorem bus_write (s : Store) (as : List A) : (s.write as).2.2.bus = s.bus := by
  rcases s.write_cases as with ⟨error, k, hwrite⟩ | ⟨result, tables, k, hub, -, -, hwrite⟩ <;> rw [hwrite]

/-- **A write enqueues the work that follows from its events**, in their order, up to an event that is refused. -/
theorem queue_write (hs : s.IsWired) (as : List A) :
    ∃ k, (s.write as).2.2.hub.queue = s.hub.queue.enqueueAll (workOf A ((pendingEvents as).take k)) ∧
      ((s.write as).1 = .ok () → (pendingEvents as).take k = pendingEvents as) := by
  obtain ⟨bs, hbus, hbs⟩ := hs
  rcases htransact : s.db.transact (Aggregate.apply A) (pendingEvents as) with ⟨e | _, db⟩
  · refine ⟨0, ?_, fun h => ?_⟩
    · simp only [write, writeTo, Database.write, htransact]
      rfl
    · simp only [write, writeTo, Database.write, htransact] at h
      cases h
  · obtain ⟨k, hqueue, hall⟩ := queue_dispatchAll hbs ((pendingEvents as).map (Aggregate.notice A)) s.hub 0
    have hwork : workOf A ((pendingEvents as).take k) =
        (((pendingEvents as).map (Aggregate.notice A)).take k).flatMap (·.payload.work?.toList) := by
      rw [workOf, ← List.map_take, List.flatMap_map]
    have htake : ((pendingEvents as).map (Aggregate.notice A)).take k = (pendingEvents as).map (Aggregate.notice A) →
        (pendingEvents as).take k = pendingEvents as := fun h => by
      have hlength := congrArg List.length h
      simp only [List.length_take, List.length_map] at hlength
      exact List.take_of_length_le (by omega)
    rw [← hwork] at hqueue
    simp only [write, writeTo, Database.write, htransact, hbus, Dispatcher.dispatchAll]
    split
    · next h₁ heq =>
      rw [heq] at hqueue hall
      exact ⟨k, hqueue, fun _ => htake (hall rfl)⟩
    · next done left source h₁ heq =>
      rw [heq] at hqueue
      exact ⟨k, hqueue, fun h => by cases h⟩

end Store

end Rollout
