import Rollout.Proofs.Command.Cleaning
import Rollout.Proofs.Command.Undisturbed
import Rollout.Proofs.Work.Scheduling

/-!
# Commands enqueue nothing

A step of a command gets at the store once at most (`Store.Touches`), and no work follows from what it writes. So it
leaves the queue of a wired store as it is (`Store.Touches.queue_eq`).
-/

namespace Rollout

/-- The store was left alone, asked something, or written to, with nothing to do about what was written. -/
inductive Store.Touches (s : Store) : Store → Prop where
  | stays : Touches s s
  | asks {β : Type} (question : Tables → Except StoreError β) : Touches s (s.query question).2
  | writes {A ε : Type} [Aggregate A ε] (as : List A) (hquiet : ∀ e ∈ pendingEvents as,
      (Aggregate.notice A e).payload.work? = none) : Touches s (s.write as).2.2

namespace Store.Touches

variable {s s' : Store}

theorem bus_eq (h : s.Touches s') : s'.bus = s.bus := by
  cases h with
  | stays => rfl
  | asks question => rfl
  | writes as _ => exact s.bus_write as

theorem isWired (h : s.Touches s') (hs : s.IsWired) : s'.IsWired := by
  obtain ⟨bs, hbus, hbs⟩ := hs
  exact ⟨bs, h.bus_eq.trans hbus, hbs⟩

theorem queue_eq (h : s.Touches s') (hs : s.IsWired) : s'.hub.queue = s.hub.queue := by
  cases h with
  | stays => rfl
  | asks question => rfl
  | @writes A ε _ as hquiet =>
    obtain ⟨k, hqueue, -⟩ := queue_write hs as
    have hnone : workOf A ((pendingEvents as).take k) = [] :=
      List.flatMap_eq_nil_iff.mpr fun e he => by rw [hquiet e (List.mem_of_mem_take he)]; rfl
    rw [hqueue, hnone]
    rfl

end Store.Touches

/-- No work follows from deployments that only changed their states. -/
theorem work?_of_hasChanged {ds : List Deployment} (hds : ∀ d ∈ ds, d.HasChanged) :
    ∀ e ∈ pendingEvents ds, (Aggregate.notice Deployment e).payload.work? = none := by
  intro e he
  obtain ⟨d, hd, he⟩ := List.mem_flatMap.mp he
  rw [hds d hd] at he
  rw [List.mem_singleton.mp he]
  rfl

namespace Deploying

variable {p p' : Deploying} {s s' : System} {d : Deployment}

theorem touches_of_andThen {β : Type} {question : Tables → Except StoreError β} {next : β → DeployPhase}
    (h : p.andThen s (s.store.query question) next = (p', s')) : s.store.Touches s'.store := by
  unfold andThen at h
  dsimp only at h
  split at h <;> cases h <;> exact .asks question

theorem touches_of_commit {next : List Deployment → DeployPhase} {x : Except AppError (List Deployment)}
    (hx : ∀ ds, x = .ok ds → ∀ d ∈ ds, d.HasChanged) (h : p.commit s next x = (p', s')) :
    s.store.Touches s'.store := by
  cases x with
  | error e =>
    cases h
    exact .stays
  | ok ds =>
    have hquiet := work?_of_hasChanged (hx ds rfl)
    unfold commit andThen at h
    dsimp only at h
    split at h <;> cases h <;> exact .writes ds hquiet

theorem touches_of_record {now : Timestamp} {error : Option String} {result : Except CommandError Unit}
    (hevents : d.events = .empty)
    (h : p.commit s (fun _ => .ended result) ((d.changeState (d.state.finished now error)).map fun d => [d]) =
      (p', s')) : s.store.Touches s'.store := by
  refine touches_of_commit (fun ds hds => ?_) h
  obtain ⟨d', hd', rfl⟩ := map_eq_ok.mp hds
  exact List.forall_mem_singleton.mpr ((Deployment.moved_of_finished hd').hasChanged hevents)

theorem touches_of_start {os : List Deployment} (hevents : d.events = .empty) (hos : ∀ o ∈ os, o.events = .empty)
    (h : p.start d os s = (p', s')) : s.store.Touches s'.store := by
  refine touches_of_commit (fun ds hds => ?_) h
  obtain ⟨closed, d', rfl, hd', hclosed⟩ := batch_eq_ok hds
  refine List.forall_mem_append.mpr ⟨fun x hx => ?_, List.forall_mem_singleton.mpr (hd'.hasChanged hevents)⟩
  obtain ⟨o, ho, hmoved, -⟩ := exists_left_of_forall₂ hclosed x hx
  exact hmoved.hasChanged (hos o ho)

theorem store_runBuild (p : Deploying) (d : Deployment) (s : System) : (p.runBuild d s).2.2.store = s.store := by
  unfold runBuild
  split
  · rfl
  · split
    · rfl
    · dsimp only
      split <;> rfl

theorem touches_of_build (h : p.build d s = (p', s')) : s.store.Touches s'.store := by
  have hstore := p.store_runBuild d s
  rcases hbuild : p.runBuild d s with ⟨_ | outcome, context, s₁⟩
  · simp only [build, hbuild] at h hstore
    cases h
    exact hstore ▸ .stays
  · simp only [build, hbuild] at h hstore
    cases h
    exact hstore ▸ .stays

/-- **A step of a deploy command enqueues nothing.** -/
theorem touches_of_step (hinformed : p.Informed s.tables) (h : p.step s = (p', s')) : s.store.Touches s'.store := by
  have hevents {d : Deployment} (hd : p.own? = some d) : d.events = .empty :=
    Tables.events_of_deployment (hinformed.own d hd)
  unfold step at h
  split at h
  case h_1 =>
    unfold load at h
    split at h
    · cases h
      exact .stays
    · exact touches_of_andThen h
  case h_2 d hphase =>
    split at h
    · exact touches_of_andThen h
    · exact touches_of_record (hevents (by simp only [own?, hphase])) h
    · cases h
      exact .stays
  case h_3 d os hphase =>
    refine touches_of_start (hevents (by simp only [own?, hphase])) (fun o ho => ?_) h
    exact Tables.events_of_deployment (((hinformed.gathered d os hphase).2 o).mp ho).stored
  case h_4 d hphase => exact touches_of_build h
  case h_5 d outcome stopped hphase =>
    have hown : d.events = .empty := hevents (by simp only [own?, hphase])
    cases outcome with
    | ok _ => exact touches_of_record hown h
    | error failure => exact touches_of_record hown h
  case h_6 | h_7 =>
    cases h
    exact .stays

end Deploying

namespace CleaningUp

variable {p p' : CleaningUp} {s s' : System}

theorem touches_of_load (h : p.load s = (p', s')) : s.store.Touches s'.store := by
  unfold load at h
  split at h
  · cases h
    exact .stays
  · dsimp only at h
    split at h
    · cases h
      exact .asks fun t => t.app p.app
    · split at h <;> cases h <;> exact .asks fun t => t.app p.app

theorem touches_of_delete {a : App} (hevents : a.events = .empty) (h : p.delete a s = (p', s')) :
    s.store.Touches s'.store := by
  unfold delete App.delete at h
  split at h
  · cases h
    exact .stays
  · next a' ha' =>
    split at ha'
    · cases ha'
    · cases ha'
      have hquiet : ∀ e ∈ pendingEvents [a.raise (.deleted a.id)],
          (Aggregate.notice App e).payload.work? = none := by
        rw [pendingEvents_raise hevents]
        exact List.forall_mem_singleton.mpr rfl
      dsimp only at h
      split at h <;> cases h <;> exact .writes _ hquiet

/-- **A step of a cleanup command enqueues nothing.** -/
theorem touches_of_step (hinformed : p.Informed) (h : p.step s = (p', s')) : s.store.Touches s'.store := by
  unfold step at h
  split at h
  case h_1 => exact touches_of_load h
  case h_2 a hphase =>
    unfold clear at h
    split at h
    · cases h
      exact .stays
    · dsimp only at h
      split at h <;> cases h <;> exact .stays
  case h_3 a hphase => exact touches_of_delete (hinformed.events a (by rw [copy?, hphase])) h
  case h_4 =>
    cases h
    exact .stays

end CleaningUp

end Rollout
