import Rollout.Proofs.Command.Undisturbed

/-!
# Interrupted deployments

A deploy command that finds its deployment running records it as failed, if the store grants it all accesses and nobody
stops it first (`System.hasStatus_deploy`).
-/

namespace Rollout

namespace Database

variable {ε : Type} {db : Database} {apply : Tables → ε → Except DatabaseError Tables} {es : List ε} {tables : Tables}
  {k n : Nat}

theorem Grants.skip (h : db.Grants (k + n)) : (db.skip k).Grants n := fun j hj => by
  rw [refusal?_skip]
  exact h (k + j) (Nat.add_lt_add_left hj k)

/-- Nothing goes wrong with a transaction that is granted all its accesses and whose events can be applied. -/
theorem Grants.not_refuses (h : db.Grants (es.length + 2)) (happlied : es.foldlM apply db.tables = .ok tables)
    (error : DatabaseError) : ¬db.Refuses apply es error := by
  intro hrefuses
  cases hrefuses with
  | begin hbegin => cases (h 0 (Nat.zero_lt_succ _)).symm.trans hbegin
  | @event before after ev tables' _ hes _ hbefore hrefused =>
    subst hes
    rcases hrefused with hrefusal | ⟨-, hev⟩
    · rw [refusal?_skip] at hrefusal
      have hlt : before.length + 1 + 0 < (before ++ ev :: after).length + 2 := by
        rw [List.length_append, List.length_cons]
        omega
      cases (h _ hlt).symm.trans hrefusal
    · rw [List.foldlM_append, hbefore] at happlied
      obtain ⟨tables'', hev', -⟩ := exists_of_foldlM_cons happlied
      cases hev.symm.trans hev'
  | commit _ _ hcommit => cases (h _ (Nat.lt_succ_self _)).symm.trans hcommit

end Database

namespace Store

variable {A ε : Type} [Aggregate A ε] {s : Store} {as : List A} {tables : Tables}

/-- A write that is granted all its accesses stores its events, if they can be applied. -/
theorem tables_write_of_grants (h : s.db.Grants ((pendingEvents as).length + 2))
    (happlied : (pendingEvents as).foldlM (Aggregate.apply A) s.db.tables = .ok tables) :
    (s.write as).2.2.db.tables = tables := by
  obtain ⟨tables', happlied', htransact⟩ := Database.transact_of_not_refuses (h.not_refuses happlied)
  obtain rfl := Except.ok.inj (happlied'.symm.trans happlied)
  rw [write, writeTo, Database.write, htransact]
  rcases Dispatcher.dispatchAll _ _ _ with ⟨⟨dispatched, pending, source⟩ | _, hub⟩ <;> rfl

end Store

namespace Deploying

variable {p : Deploying} {s : System} {d : Deployment}

theorem run_succ (n : Nat) (p : Deploying) (s : System) : p.run (n + 1) s = (p.step s).1.run n (p.step s).2 := rfl

theorem run_of_isOver (h : p.isOver = true) (n : Nat) : p.run n s = (p, s) := by
  induction n with
  | zero => rfl
  | succ n ih => rw [run_succ, step_of_isOver h, ih]

theorem load_of_grants (hgo : p.context.stop? s.now = none) (hgrants : s.store.db.Grants 1)
    (hd : s.tables.deployment p.id = .ok d) :
    p.load s = (p.goTo (.loaded d), { s with store := s.store.skip 1 }) := by
  have hd : s.store.db.tables.deployment p.id = .ok d := hd
  have hquery : s.store.loadDeployment p.id = (.ok d, s.store.skip 1) := by
    rw [Store.loadDeployment, Store.query, Database.query, Database.access_of_granted (hgrants 0 Nat.one_pos)]
    simp only [Database.tables_skip, hd, Store.skip]
  simp only [load, hgo, andThen, hquery]

theorem tables_commit {next : List Deployment → DeployPhase} {ds : List Deployment} :
    (p.commit s next (.ok ds)).2.tables = (s.store.write ds).2.2.db.tables := by
  unfold commit andThen
  dsimp only
  split <;> rfl

/-- An outcome is stored by a write that is granted all its accesses. -/
theorem tables_record_of_grants {now : Timestamp} {error : Option String} {d' : Deployment}
    {next : List Deployment → DeployPhase} (hevents : d.events = .empty)
    (hd' : d.changeState (d.state.finished now error) = .ok d') (hgrants : s.store.db.Grants 3) :
    (p.commit s next (.ok [d'])).2.tables = s.tables.changeStates [d'] := by
  have hchanged : ∀ x ∈ [d'], x.HasChanged :=
    List.forall_mem_singleton.mpr ((Deployment.moved_of_finished hd').hasChanged hevents)
  have hpending : pendingEvents [d'] = [.stateChanged d'.id d'.state] := by
    rw [pendingEvents, List.flatMap_singleton]
    exact hchanged d' (List.mem_singleton_self d')
  rw [tables_commit]
  refine Store.tables_write_of_grants (by rwa [hpending]) ?_
  rw [hpending]
  rfl

theorem isOver_of_isSome (h : p.result?.isSome = true) : p.isOver = true := by
  obtain ⟨id, context, holds, phase⟩ := p
  cases phase <;> first | rfl | cases h

theorem isSome_result?_record {result : Except CommandError Unit} {x : Except AppError (List Deployment)} :
    (p.commit s (fun _ => .ended result) x).1.result?.isSome = true := by
  unfold commit
  split
  · rfl
  · unfold andThen
    dsimp only
    split <;> rfl

/-- A running deployment is recorded as failed. -/
theorem recordInterruption_of_grants (hfiled : s.tables.Filed) (hd : s.tables.deployment p.id = .ok d)
    (hruns : d.state.status = .running) (hgrants : s.store.db.Grants 3) :
    (p.recordInterruption d s).1.isOver = true ∧ (p.recordInterruption d s).2.tables.HasStatus p.id .failed := by
  obtain ⟨d', hd'⟩ := Deployment.exists_finished hruns s.time (some interrupted)
  have hfailed : d.markFailed s.time interrupted = .ok d' := hd'
  have hstatus : d'.state.status = .failed :=
    (DeploymentState.finished_eq_ok (Deployment.changeState_eq_ok hd').1).2.1
  have hid : d'.id = p.id := (Deployment.moved_of_finished hd').id.trans (hfiled.deployment?_eq hd).2
  refine ⟨isOver_of_isSome isSome_result?_record, ?_⟩
  rw [recordInterruption, hfailed, Except.map, tables_record_of_grants (Tables.events_of_deployment hd) hd' hgrants]
  refine (hfiled.changeStates [d']).hasStatus_iff.mpr ⟨d.inState d'.state, ?_, hstatus⟩
  exact hfiled.deployment_changeStates hd (by simp [hid])

end Deploying

/-- **A deploy command records the outcome of a deployment that it finds running.** -/
theorem System.hasStatus_deploy {s : System} (hfiled : s.tables.Filed) {id : DeploymentId} {c : Context}
    (hruns : s.tables.HasStatus id .running) (hgo : c.stop? s.now = none) (hgrants : s.store.db.Grants 4)
    (holds : Bool) : (s.deploy id c holds).2.tables.HasStatus id .failed := by
  obtain ⟨d, hd, hstatus⟩ := hfiled.hasStatus_iff.mp hruns
  let p : Deploying := (Deploying.enter id c holds).goTo (.loaded d)
  let s₁ : System := { s with store := s.store.skip 1 }
  have hload : (Deploying.enter id c holds).step s = (p, s₁) :=
    Deploying.load_of_grants hgo (fun k hk => hgrants k (Nat.lt_of_lt_of_le hk (by decide))) hd
  have hrecord : p.step s₁ = p.recordInterruption d s₁ := by
    simp only [p, Deploying.step, Deploying.goTo, hstatus]
  have htables : s₁.tables = s.tables := Store.tables_skip 1
  have hgrants₁ : s₁.store.db.Grants 3 := Database.Grants.skip hgrants
  obtain ⟨hover, hfailed⟩ := @Deploying.recordInterruption_of_grants p s₁ d (htables ▸ hfiled) (htables.symm ▸ hd)
    hstatus hgrants₁
  have hrun : (Deploying.enter id c holds).run 5 s = p.recordInterruption d s₁ := by
    rw [Deploying.run_succ, hload, Deploying.run_succ, hrecord, Deploying.run_of_isOver hover]
  rw [deploy, hrun]
  exact hfailed

end Rollout
