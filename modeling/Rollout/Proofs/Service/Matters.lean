import Rollout.Proofs.Store.Course
import Rollout.Proofs.Work.Scheduling
import Rollout.Proofs.Work.Keys

/-!
# Matters of jobs

A deployment that waits, one that runs and a request for a cleanup are matters that some job has to see to
(`Work.SeesTo`). Work with the key of other work sees to what that one would have seen to, if it is newer
(`Work.SeesTo.of_follows`), except that a running deployment is a matter of its own job only. Work that has been done
leaves no matter behind that it would see to (`Work.IsDone.not_seesTo`).
-/

namespace Rollout

/-- Something on record that is not over. -/
inductive Matter where
  | waiting (id : DeploymentId)
  | running (id : DeploymentId)
  | leaving (app : AppId)

def Tables.Shows (t : Tables) : Matter → Prop
  | .waiting id => t.HasStatus id .pending
  | .running id => t.HasStatus id .running
  | .leaving app => t.Leaves app

/-! ## Matters that come up -/

namespace Tables

variable {issued new : List AppId} {t t' : Tables} {d : Deployment} {x : Matter}

theorem hasStatus_congr {id : DeploymentId} {st : DeploymentStatus} (h : t'.deployment? id = t.deployment? id) :
    t'.HasStatus id st ↔ t.HasStatus id st := by
  rw [HasStatus, HasStatus, h]

theorem hasStatus_of_deployments {id : DeploymentId} {st : DeploymentStatus} (h : t'.deployments = t.deployments) :
    t'.HasStatus id st ↔ t.HasStatus id st :=
  hasStatus_congr (by rw [deployment?, deployment?, h])

theorem leaves_congr (h : t'.apps = t.apps) (app : AppId) : t'.Leaves app ↔ t.Leaves app := by
  rw [Leaves, Leaves, app?_congr h]

namespace Shows

theorem of_retains (hx : t'.Shows x) (h : Retains issued new t t') (hleaves : ∀ app, t'.Leaves app → t.Leaves app) :
    t.Shows x := by
  cases x with
  | waiting id => exact (hasStatus_of_deployments h.deployments).mp hx
  | running id => exact (hasStatus_of_deployments h.deployments).mp hx
  | leaving app => exact hleaves app hx

theorem of_marks {app : AppId} (hx : t'.Shows x) (h : Retains issued new t t')
    (hleaves : ∀ k, t'.Leaves k → k = app ∨ t.Leaves k) : t.Shows x ∨ x = .leaving app := by
  cases x with
  | waiting id => exact .inl ((hasStatus_of_deployments h.deployments).mp hx)
  | running id => exact .inl ((hasStatus_of_deployments h.deployments).mp hx)
  | leaving k => exact (hleaves k hx).symm.imp_right fun hk => by rw [hk]

theorem of_asks (hx : t'.Shows x) (h : t.Asks d t') : t.Shows x ∨ x = .waiting d.id := by
  have hfound (id : DeploymentId) (hne : id ≠ d.id) : t'.deployment? id = t.deployment? id :=
    (h.deployment? id).trans (if_neg hne)
  cases x with
  | waiting id =>
    by_cases hid : id = d.id
    · exact .inr (by rw [hid])
    · exact .inl ((hasStatus_congr (hfound id hid)).mp hx)
  | running id =>
    by_cases hid : id = d.id
    · obtain ⟨r, hr, hstatus⟩ := hx
      rw [h.deployment?, if_pos hid] at hr
      cases hr
      have hruns : d.state.status = .running := Column.value.inj hstatus
      rw [h.waits] at hruns
      cases hruns
    · exact .inl ((hasStatus_congr (hfound id hid)).mp hx)
  | leaving app => exact .inl ((leaves_congr h.apps app).mp hx)

/-- What the state of a deployment says of it. -/
theorem status_of_inState (hfiled : t.Filed) {id : DeploymentId} {s : DeploymentState} {st : DeploymentStatus}
    (hd : t.deployment id = .ok (d.inState s)) (hstatus : t.HasStatus id st) : s.status = st := by
  obtain ⟨d', hd', hst⟩ := hfiled.hasStatus_iff.mp hstatus
  cases hd.symm.trans hd'
  exact hst

theorem of_starts (hx : t'.Shows x) (h : t.Starts d t') (hfiled : t'.Filed) : t.Shows x ∨ x = .running d.id := by
  obtain ⟨s, hruns, hown⟩ := h.own
  -- the row of a deployment that is neither started nor closed is the same
  have hback (id : DeploymentId) (st : DeploymentStatus) (hne : id ≠ d.id) (hst : st ≠ .failed)
      (hid : t'.HasStatus id st) : t.HasStatus id st := by
    refine (hasStatus_congr (h.others id hne fun o ho hoid => ?_)).mp hid
    obtain ⟨s', hfailed, hclosed⟩ := h.closed o ho
    exact hst ((status_of_inState hfiled hclosed (hoid ▸ hid)).symm.trans hfailed)
  cases x with
  | waiting id =>
    refine .inl (hback id .pending (fun hid => ?_) (by decide) hx)
    have hwaits := status_of_inState hfiled hown (hid ▸ hx)
    rw [hruns] at hwaits
    cases hwaits
  | running id =>
    by_cases hid : id = d.id
    · exact .inr (by rw [hid])
    · exact .inl (hback id .running hid (by decide) hx)
  | leaving app => exact .inl ((leaves_congr h.apps app).mp hx)

theorem of_finishes (hx : t'.Shows x) (h : t.Finishes d t') (hfiled : t'.Filed) : t.Shows x := by
  obtain ⟨s, hfinished, hown⟩ := h.own
  have hback (id : DeploymentId) (st : DeploymentStatus) (hst : st.isFinished = false) (hid : t'.HasStatus id st) :
      t.HasStatus id st := by
    refine (hasStatus_congr (h.others id fun heq => ?_)).mp hid
    rw [status_of_inState hfiled hown (heq ▸ hid), hst] at hfinished
    cases hfinished
  cases x with
  | waiting id => exact hback id .pending rfl hx
  | running id => exact hback id .running rfl hx
  | leaving app => exact (leaves_congr h.apps app).mp hx

theorem of_deleteApp {app : AppId} (hx : (t.deleteApp app).Shows x) : t.Shows x := by
  have hback (id : DeploymentId) (st : DeploymentStatus) (hid : (t.deleteApp app).HasStatus id st) :
      t.HasStatus id st := by
    obtain ⟨r, hr, hstatus⟩ := hid
    rw [deployment?_deleteApp] at hr
    split at hr
    · cases hr
    · exact ⟨r, hr, hstatus⟩
  cases x with
  | waiting id => exact hback id .pending hx
  | running id => exact hback id .running hx
  | leaving k =>
    obtain ⟨r, hr, hmarked⟩ := hx
    rw [app?_deleteApp] at hr
    split at hr
    · cases hr
    · exact ⟨r, hr, hmarked⟩

end Shows

end Tables

/-! ## Work -/

namespace Work

variable {issued new : List AppId} {t t' : Tables} {w w' : Work} {key : Option String} {x : Matter}

/-- A deploy job sees to its own deployment, and closes the older ones of the environment that wait. -/
inductive SeesTo (t : Tables) : Work → Matter → Prop where
  | waiting {id : DeploymentId} {m : DeploymentNumber} (hle : id.number.toNat ≤ m.toNat)
      (henvironment : t.environment? ⟨id.app, m⟩ = t.environment? id) : SeesTo t (.deploy id.app m) (.waiting id)
  | running (id : DeploymentId) : SeesTo t (.deploy id.app id.number) (.running id)
  | leaving (app : AppId) : SeesTo t (.cleanup app) (.leaving app)

/-- The work is the same, or newer. -/
inductive Follows : Work → Work → Prop where
  | deploy {app : AppId} {m n : DeploymentNumber} (hlt : n.toNat < m.toNat) : Follows (.deploy app m) (.deploy app n)
  | cleanup (app : AppId) : Follows (.cleanup app) (.cleanup app)

/-- The key of the work is what it is to be, and as long as its app is stored, it is there what the work is about. -/
inductive Sound (issued : List AppId) (t : Tables) : Work → Option String → Prop where
  | deploy {id : DeploymentId} {project : String} (happ : id.app ∈ issued)
      (hstored : (t.app? id.app).isSome = true → ∃ d, t.deployment id = .ok d ∧ d.config.projectName = project) :
    Sound issued t (.deploy id.app id.number) (some (deployKey id.app project))
  | cleanup {app : AppId} (happ : app ∈ issued) (hstored : (t.app? app).isSome = true → t.Leaves app) :
    Sound issued t (.cleanup app) (some (cleanupKey app))

/-- The work has been done, or is no matter any more. -/
def IsDone (t : Tables) : Work → Prop
  | .deploy app n =>
    (t.app? app).isSome = true → ∃ d, t.deployment ⟨app, n⟩ = .ok d ∧ d.state.status.isFinished = true
  | .cleanup app => t.app? app = none
  | .foreign _ => False

theorem Sound.exists_key (h : Sound issued t w key) : ∃ k, key = some k := by
  cases h with
  | deploy | cleanup => exact ⟨_, rfl⟩

/-- An app that is still stored was stored before. -/
theorem isSome_app?_of_keeps (hkeeps : Tables.Keeps issued t t') {app : AppId} (happ : app ∈ issued)
    (hsome : (t'.app? app).isSome = true) : (t.app? app).isSome = true := by
  obtain ⟨r', hr'⟩ := Option.isSome_iff_exists.mp hsome
  obtain ⟨r, hr, -⟩ := hkeeps.app app happ r' hr'
  rw [hr]
  rfl

theorem Sound.of_keeps (h : Sound issued t w key) (hkeeps : Tables.Keeps issued t t') :
    Sound (new ++ issued) t' w key := by
  cases h with
  | @deploy id project happ hstored =>
    refine .deploy (List.mem_append_right _ happ) fun hsome => ?_
    obtain ⟨d, hd, hproject⟩ := hstored (isSome_app?_of_keeps hkeeps happ hsome)
    obtain ⟨state, hstate, -⟩ := hkeeps.deployment id d happ hsome hd
    exact ⟨_, hstate, hproject⟩
  | @cleanup app happ hstored =>
    refine .cleanup (List.mem_append_right _ happ) fun hsome => ?_
    obtain ⟨r', hr'⟩ := Option.isSome_iff_exists.mp hsome
    obtain ⟨r, hr, -, hmarked⟩ := hkeeps.app app happ r' hr'
    obtain ⟨r₀, hr₀, hbefore⟩ := hstored (by rw [hr]; rfl)
    cases hr.symm.trans hr₀
    exact ⟨r', hr', hmarked hbefore⟩

theorem IsDone.of_keeps (h : w.IsDone t) (hsound : Sound issued t w key) (hkeeps : Tables.Keeps issued t t') :
    w.IsDone t' := by
  cases hsound with
  | @deploy id project happ _ =>
    intro hsome
    obtain ⟨d, hd, hfinished⟩ := h (isSome_app?_of_keeps hkeeps happ hsome)
    obtain ⟨state, hstate, hcomes⟩ := hkeeps.deployment id d happ hsome hd
    exact ⟨_, hstate, hcomes.isFinished hfinished⟩
  | @cleanup app happ _ =>
    refine Option.not_isSome_iff_eq_none.mp fun hsome => ?_
    have hnone : t.app? app = none := h
    have hbefore := isSome_app?_of_keeps hkeeps happ hsome
    rw [hnone] at hbefore
    cases hbefore

/-- What work sees to remains its matter. -/
theorem SeesTo.of_keeps (h : w.SeesTo t x) (hwithin : t.Within issued) (hkeeps : Tables.Keeps issued t t')
    (hfiled : t.Filed) (hfiled' : t'.Filed) (hx : t.Shows x) (hx' : t'.Shows x) : w.SeesTo t' x := by
  cases h with
  | running id => exact .running id
  | leaving app => exact .leaving app
  | @waiting id m hle henvironment =>
    obtain ⟨d, hd, -⟩ := hfiled.hasStatus_iff.mp hx
    obtain ⟨d', hd', -⟩ := hfiled'.hasStatus_iff.mp hx'
    have happ : id.app ∈ issued := hwithin _ (hfiled.isSome_app? hd)
    have hsome := hfiled'.isSome_app? hd'
    -- the newer deployment is stored too, since its environment is
    have hnewer : ∃ d', t.deployment ⟨id.app, m⟩ = .ok d' := by
      rw [hfiled.environment?_eq hd, Tables.environment?] at henvironment
      obtain ⟨r, hr, -⟩ := Option.map_eq_some_iff.mp henvironment
      obtain ⟨d', hd', -⟩ := hfiled.exists_deployment hr
      exact ⟨d', hd'⟩
    obtain ⟨d'', hd''⟩ := hnewer
    refine .waiting hle ?_
    have hm : t'.environment? ⟨id.app, m⟩ = t.environment? ⟨id.app, m⟩ :=
      hkeeps.environment?_eq hfiled hfiled' happ hsome hd''
    rw [hm, henvironment, hkeeps.environment?_eq hfiled hfiled' happ hsome hd]

theorem Sound.of_deploy {app : AppId} {n : DeploymentNumber} (h : Sound issued t (.deploy app n) key) :
    ∃ project, key = some (deployKey app project) ∧ ((t.app? app).isSome = true →
      ∃ d, t.deployment ⟨app, n⟩ = .ok d ∧ d.config.projectName = project) := by
  cases h with
  | @deploy id project _ hstored => exact ⟨project, rfl, hstored⟩

theorem IsDone.of_isSettled {id : DeploymentId} (h : t.IsSettled id)
    (hsound : Sound issued t (.deploy id.app id.number) key) : (Work.deploy id.app id.number).IsDone t := by
  intro hsome
  rcases h with hnone | hfinished
  · obtain ⟨project, -, hstored⟩ := hsound.of_deploy
    obtain ⟨d, hd, -⟩ := hstored hsome
    obtain ⟨r, hr, -⟩ := Tables.deployment_eq_ok.mp hd
    cases hnone.symm.trans hr
  · exact hfinished

theorem Sound.of_cleanup {app : AppId} (h : Sound issued t (.cleanup app) key) (hsome : (t.app? app).isSome = true) :
    t.Leaves app := by
  cases h with
  | cleanup _ hstored => exact hstored hsome

/-- Deployments of one app whose work has one key are for one environment. -/
theorem Sound.environment?_eq {app : AppId} {m n : DeploymentNumber} (hm : Sound issued t (.deploy app m) key)
    (hn : Sound issued t (.deploy app n) key) (hfiled : t.Filed) (hstored : (t.app? app).isSome = true) :
    t.environment? ⟨app, m⟩ = t.environment? ⟨app, n⟩ := by
  obtain ⟨project, hkey, hrow⟩ := hm.of_deploy
  obtain ⟨project', hkey', hrow'⟩ := hn.of_deploy
  obtain rfl := (deployKey_inj.mp (Option.some.inj (hkey.symm.trans hkey'))).2
  obtain ⟨d, hd, hproject⟩ := hrow hstored
  obtain ⟨d', hd', hproject'⟩ := hrow' hstored
  have henvironment := (projectName_inj.mp (hproject.trans hproject'.symm)).2
  rw [hfiled.environment?_eq hd, hfiled.environment?_eq hd', henvironment]

/-- **Newer work sees to what older work of its key would have seen to**, unless that is running. -/
theorem SeesTo.of_follows (h : w'.SeesTo t x) (hf : w.Follows w') (hfiled : t.Filed) (hw : Sound issued t w key)
    (hw' : Sound issued t w' key) (hx : t.Shows x) :
    w.SeesTo t x ∨ ∃ id m, x = .running id ∧ w = .deploy id.app m ∧ id.number.toNat < m.toNat ∧
      t.environment? ⟨id.app, m⟩ = t.environment? id := by
  cases h with
  | @waiting id n hle henvironment =>
    obtain ⟨d, hd, -⟩ := hfiled.hasStatus_iff.mp hx
    cases hf with
    | deploy hlt =>
      have hsame := hw.environment?_eq hw' hfiled (hfiled.isSome_app? hd)
      exact .inl (.waiting (Nat.le_trans hle (Nat.le_of_lt hlt)) (hsame.trans henvironment))
  | running id =>
    obtain ⟨d, hd, -⟩ := hfiled.hasStatus_iff.mp hx
    cases hf with
    | @deploy _ m _ hlt =>
      exact .inr ⟨id, m, rfl, rfl, hlt, hw.environment?_eq hw' hfiled (hfiled.isSome_app? hd)⟩
  | leaving app =>
    cases hf with
    | cleanup => exact .inl (.leaving app)

/-- The command of a job is found. -/
theorem Sound.exists_command {job : Job Work} (h : Sound issued t job.data key) :
    (∃ id : DeploymentId, job.data = .deploy id.app id.number ∧ registry.command job = .ok (.deploy id)) ∨
      ∃ app, job.data = .cleanup app ∧ registry.command job = .ok (.cleanup app) := by
  obtain ⟨i, attempt, data, key'⟩ := job
  cases h with
  | @deploy id => exact .inl ⟨id, rfl, rfl⟩
  | @cleanup app => exact .inr ⟨app, rfl, rfl⟩

/-! ## New work -/

theorem Sound.ofDeployment {d : Deployment} (h : t.Asks d t') (happ : d.id.app ∈ issued) :
    Sound issued t' (ofDeployment d.id d.config).data (ofDeployment d.id d.config).key :=
  .deploy happ fun _ => ⟨d, h.stored, rfl⟩

theorem Sound.ofCleanup {app : AppId} (hleaves : t.Leaves app) (happ : app ∈ issued) :
    Sound issued t (ofCleanup app).data (ofCleanup app).key :=
  .cleanup happ fun _ => hleaves

/-- A deployment that is asked for is newer than all others. -/
theorem follows_ofDeployment {d : Deployment} (h : t.Asks d t') (hfiled : t.Filed) (hsound : Sound issued t w key)
    (hkey : key = (ofDeployment d.id d.config).key) : (ofDeployment d.id d.config).data.Follows w := by
  cases hsound with
  | @deploy id project _ hstored =>
    have happ := (deployKey_inj.mp (Option.some.inj hkey)).1
    obtain ⟨r, hr, -⟩ := h.named
    obtain ⟨d', hd', -⟩ := hstored (by rw [happ, hr]; rfl)
    have hlt := h.lt hfiled (by rw [(hfiled.deployment?_eq hd').1]; rfl) happ
    show Follows (.deploy d.id.app d.id.number) (.deploy id.app id.number)
    rw [happ]
    exact .deploy hlt
  | cleanup => exact absurd (Option.some.inj hkey).symm (deployKey_ne_cleanupKey _ _ _)

theorem follows_ofCleanup {app : AppId} (hsound : Sound issued t w key) (hkey : key = (ofCleanup app).key) :
    (ofCleanup app).data.Follows w := by
  cases hsound with
  | deploy => exact absurd (Option.some.inj hkey) (deployKey_ne_cleanupKey _ _ _)
  | cleanup =>
    obtain rfl := cleanupKey_inj.mp (Option.some.inj hkey)
    exact .cleanup _

/-- **Work that has been done leaves nothing behind.** -/
theorem IsDone.not_seesTo (h : w.IsDone t) (hfiled : t.Filed) (horderly : t.Orderly) (hx : t.Shows x) :
    ¬w.SeesTo t x := by
  intro hsees
  cases hsees with
  | @waiting id m hle henvironment =>
    obtain ⟨d, hd, hwaits⟩ := hfiled.hasStatus_iff.mp hx
    obtain ⟨d', hd', hfinished⟩ := h (hfiled.isSome_app? hd)
    have hid := (hfiled.deployment?_eq hd).2
    have hid' := (hfiled.deployment?_eq hd').2
    have hstarted : d'.state.status ≠ .pending := fun hpending => by
      rw [hpending] at hfinished
      cases hfinished
    rw [hfiled.environment?_eq hd, hfiled.environment?_eq hd'] at henvironment
    rcases Nat.lt_or_eq_of_le hle with hlt | heq
    · refine horderly d' d (hid' ▸ hd') hstarted ⟨hid ▸ hd, ?_, ?_, ?_, hwaits⟩
      · rw [hid, hid']
      · exact (Column.value.inj (Option.some.inj henvironment)).symm
      · rw [hid, hid']
        exact hlt
    · obtain rfl := DeploymentNumber.toNat_inj.mp heq
      cases hd.symm.trans hd'
      exact hstarted hwaits
  | running id =>
    obtain ⟨d, hd, hruns⟩ := hfiled.hasStatus_iff.mp hx
    obtain ⟨d', hd', hfinished⟩ := h (hfiled.isSome_app? hd)
    cases hd.symm.trans hd'
    rw [hruns] at hfinished
    cases hfinished
  | leaving app =>
    obtain ⟨r, hr, -⟩ := hx
    have hnone : t.app? app = none := h
    rw [hnone] at hr
    cases hr

end Work

end Rollout
