import Rollout.Proofs.Store.Placement

/-!
# Deployments as they are kept

The program keeps the deployments in order (`Tables.Filed`): a row stores a deployment of a stored app and has its name,
no two rows are of one deployment, and the deployments of an app are numbered without a gap. So the older deployments
that wait are found without exception (`Filed.mem_pendingBefore`), and the next number comes right after all that are
there (`Filed.isSome_iff_of_nextNumber`). Whatever the program changes keeps the order.
-/

namespace Rollout

/-! ## Numbers -/

namespace Cell

theorem isBefore_integer {m n : Int} : (integer m).isBefore (integer n) = true ↔ m < n := by
  simp [isBefore, rank, ratio]

theorem greatest?_eq_none {cs : List Cell} (h : greatest? cs = none) : cs = [] := by
  cases cs with
  | nil => rfl
  | cons c cs =>
    rw [greatest?] at h
    split at h <;> cases h

/-- The last of some integers is the largest one. -/
theorem greatest?_integers {cs : List Cell} {c : Cell} (hcs : ∀ c ∈ cs, ∃ n, c = integer n)
    (h : greatest? cs = some c) : ∃ m, c = integer m ∧ c ∈ cs ∧ ∀ n, integer n ∈ cs → n ≤ m := by
  induction cs generalizing c with
  | nil => cases h
  | cons c' cs ih =>
    obtain ⟨⟨n, rfl⟩, hrestcs⟩ := List.forall_mem_cons.mp hcs
    rw [greatest?] at h
    cases hrest : greatest? cs with
    | none =>
      rw [hrest] at h
      cases h
      rw [greatest?_eq_none hrest]
      exact ⟨n, rfl, List.mem_cons_self, fun k hk => by simp_all⟩
    | some d =>
      rw [hrest] at h
      obtain ⟨m, rfl, hm, hmax⟩ := ih hrestcs hrest
      cases h
      split
      · next hlt =>
        rw [isBefore_integer] at hlt
        refine ⟨n, rfl, List.mem_cons_self, fun k hk => ?_⟩
        rcases List.mem_cons.mp hk with hk | hk
        · exact Int.le_of_eq (Cell.integer.inj hk)
        · exact Int.le_trans (hmax k hk) (Int.le_of_lt hlt)
      · next hle =>
        rw [isBefore_integer, Int.not_lt] at hle
        refine ⟨m, rfl, List.mem_cons_of_mem _ hm, fun k hk => ?_⟩
        rcases List.mem_cons.mp hk with hk | hk
        · exact Cell.integer.inj hk ▸ hle
        · exact hmax k hk

theorem successor?_integer {k n : Int} (h : (integer k).successor? = some n) : n = k + 1 := by
  simp only [successor?, integer?, Option.bind_some] at h
  split at h
  · exact (Option.some.inj h).symm
  · cases h

end Cell

theorem AppName.text_inj {m n : AppName} : m.text = n.text ↔ m = n := by
  cases m
  cases n
  simp

/-! ## Rows -/

namespace DeploymentRow

variable {d d' : Deployment} {id : DeploymentId}

/-- The row that stores a deployment. -/
def of (d : Deployment) : DeploymentRow := .ofCreated d.id d.config d.state d.requested

theorem shows_of (h : d.events = .empty) : (of d).Shows d :=
  ⟨rfl, rfl, rfl, rfl, rfl, rfl, rfl, rfl, rfl, rfl, rfl, rfl, h⟩

/-- A row stores one deployment. -/
theorem eq_of_shows {r : DeploymentRow} (h : r.Shows d) (h' : r.Shows d') : d = d' :=
  Except.ok.inj ((toDeployment_eq_ok.mpr h).symm.trans (toDeployment_eq_ok.mpr h'))

theorem isOf_of : (of d).isOf id = true ↔ d.id = id :=
  isOf_iff_of_isOf (isOf_iff.mpr ⟨rfl, rfl⟩)

theorem withState_of (s : DeploymentState) : (of d).withState s = of { d with state := s } := rfl

end DeploymentRow

namespace Tables

variable {t t' : Tables} {id : DeploymentId} {r : DeploymentRow} {d : Deployment}

/-- The app is stored, and has this name. -/
def IsNamed (t : Tables) (app : AppId) (name : AppName) : Prop :=
  ∃ r, t.app? app = some r ∧ r.name.read "name" = .ok name.text

/-- The deployments are kept in order. -/
structure Filed (t : Tables) : Prop where
  rows : ∀ r ∈ t.deployments, ∃ d : Deployment, d.events = .empty ∧ r = .of d
  nodup : (t.deployments.map fun r => (r.app, r.number)).Nodup
  owned : ∀ r ∈ t.deployments, ∃ name : AppName, r.appName = .value name.text ∧ t.IsNamed r.app name
  gapless : ∀ (id : DeploymentId) (m : DeploymentNumber), (t.deployment? id).isSome = true → 0 < m.toNat →
    m.toNat ≤ id.number.toNat → (t.deployment? ⟨id.app, m⟩).isSome = true

theorem mem_of_deployment? (h : t.deployment? id = some r) : r ∈ t.deployments ∧ r.isOf id = true := by
  have hfound : t.deployments.find? (·.isOf id) = some r := h
  have hof := List.find?_some hfound
  exact ⟨List.mem_of_find?_eq_some hfound, hof⟩

theorem deployment?_deleteApp (app : AppId) (id : DeploymentId) :
    (t.deleteApp app).deployment? id = if id.app = app then none else t.deployment? id := by
  have hkept (r : DeploymentRow) (hof : r.isOf id = true) : r.app = id.app := (DeploymentRow.isOf_iff.mp hof).1
  split
  · next happ =>
    refine List.find?_eq_none.mpr fun r hr hof => ?_
    have hne : r.app ≠ app := of_decide_eq_true (List.mem_filter.mp hr).2
    exact hne ((hkept r hof).trans happ)
  · next hne =>
    have hpredicate (r : DeploymentRow) : (!decide (r.app = app) && r.isOf id) = r.isOf id := by
      cases hof : r.isOf id with
      | false => simp
      | true => simp [hkept r hof, hne]
    simp [deployment?, Tables.deleteApp, List.find?_filter, hpredicate]

theorem deployments_applyAppEvent {e : AppEvent} (hkept : e.deletes = false) (h : t.applyAppEvent e = .ok t') :
    t'.deployments = t.deployments := by
  cases hnew : e.founded with
  | some a =>
    obtain ⟨id, name, production, staging, created, rfl, -⟩ := AppRow.shows_ofCreated hnew
    obtain ⟨-, rfl⟩ := insertApp_eq_ok.mp h
    rfl
  | none =>
    rw [applyAppEvent_of_change hnew hkept] at h
    cases h
    rfl

/-! ## What is found -/

theorem events_of_deployment (hd : t.deployment id = .ok d) : d.events = .empty := by
  obtain ⟨r, -, hshows⟩ := deployment_eq_ok.mp hd
  exact hshows.events

namespace Filed

/-- A row is found under its key. -/
theorem deployment?_of_mem (h : t.Filed) (hr : r ∈ t.deployments) (hof : r.isOf id = true) :
    t.deployment? id = some r := by
  cases hfound : t.deployment? id with
  | none =>
    have hnone : t.deployments.find? (·.isOf id) = none := hfound
    exact absurd hof (List.find?_eq_none.mp hnone r hr)
  | some r' =>
    obtain ⟨hr', hof'⟩ := mem_of_deployment? hfound
    rw [DeploymentRow.isOf_iff] at hof hof'
    have hkey : (r'.app, r'.number) = (r.app, r.number) := by rw [hof.1, hof.2, hof'.1, hof'.2]
    rw [List.inj_on_of_nodup_map h.nodup hr' hr hkey]

theorem exists_deployment (h : t.Filed) (hr : t.deployment? id = some r) :
    ∃ d, t.deployment id = .ok d ∧ d.id = id ∧ r = .of d := by
  obtain ⟨hmem, hof⟩ := mem_of_deployment? hr
  obtain ⟨d, hevents, rfl⟩ := h.rows r hmem
  exact ⟨d, deployment_eq_ok.mpr ⟨_, hr, DeploymentRow.shows_of hevents⟩, DeploymentRow.isOf_of.mp hof, rfl⟩

theorem deployment?_eq (h : t.Filed) (hd : t.deployment id = .ok d) : t.deployment? id = some (.of d) ∧ d.id = id := by
  obtain ⟨r, hr, hshows⟩ := deployment_eq_ok.mp hd
  obtain ⟨d', hd', hid, rfl⟩ := h.exists_deployment hr
  cases hd.symm.trans hd'
  exact ⟨hr, hid⟩

theorem isNamed (h : t.Filed) (hd : t.deployment id = .ok d) : t.IsNamed id.app d.config.appName := by
  obtain ⟨hr, hid⟩ := h.deployment?_eq hd
  obtain ⟨name, hname, happ⟩ := h.owned _ (mem_of_deployment? hr).1
  obtain rfl := AppName.text_inj.mp (Column.value.inj hname)
  exact hid ▸ happ

/-- Only a deployment that is not there cannot be read. -/
theorem deployment?_of_error (h : t.Filed) {e : StoreError} (he : t.deployment id = .error e) :
    t.deployment? id = none := by
  cases hr : t.deployment? id with
  | none => rfl
  | some r =>
    obtain ⟨d, hd, -⟩ := h.exists_deployment hr
    cases he.symm.trans hd

/-- **The older deployments that wait are found without exception.** -/
theorem mem_pendingBefore (h : t.Filed) {app : AppId} {e : Environment} {n : DeploymentNumber} {os : List Deployment}
    (hos : t.pendingBefore app e n = .ok os) {o : Deployment} :
    o ∈ os ↔ t.deployment o.id = .ok o ∧ o.id.app = app ∧ o.config.environment = e ∧
      o.id.number.toNat < n.toNat ∧ o.state.status = .pending := by
  have hrows := DeploymentRow.toDeployments_eq_ok (mapError_eq_ok.mp hos)
  have hmem (r : DeploymentRow) := (List.mergeSort_perm (t.deployments.filter fun r =>
    r.app = app && r.environment.holds e && r.number.isBefore (.integer n.toNat) && r.status.holds .pending)
    fun a b => !b.number.isBefore a.number).mem_iff (a := r)
  simp only [List.mem_filter, Bool.and_eq_true, decide_eq_true_eq, Column.holds_iff] at hmem
  -- the row of a deployment, and what it is looked for by
  have hlooked (o : Deployment) : ((((DeploymentRow.of o).app = app ∧ (DeploymentRow.of o).environment = .value e) ∧
      (DeploymentRow.of o).number.isBefore (.integer n.toNat) = true) ∧ (DeploymentRow.of o).status = .value .pending) ↔
      o.id.app = app ∧ o.config.environment = e ∧ o.id.number.toNat < n.toNat ∧ o.state.status = .pending := by
    have hbefore : (DeploymentRow.of o).number.isBefore (.integer n.toNat) = true ↔ o.id.number.toNat < n.toNat :=
      Cell.isBefore_integer.trans Int.ofNat_lt
    rw [hbefore]
    simp only [DeploymentRow.of, DeploymentRow.ofCreated, Column.value.injEq, and_assoc]
  constructor
  · intro ho
    obtain ⟨r, hr, hshows⟩ := exists_left_of_forall₂ hrows o ho
    obtain ⟨hr, hasked⟩ := (hmem r).mp hr
    obtain ⟨d, hevents, rfl⟩ := h.rows r hr
    obtain rfl := DeploymentRow.eq_of_shows hshows (DeploymentRow.shows_of hevents)
    have hfound := h.deployment?_of_mem hr (DeploymentRow.isOf_of.mpr rfl)
    exact ⟨deployment_eq_ok.mpr ⟨_, hfound, hshows⟩, (hlooked o).mp hasked⟩
  · rintro ⟨ho, hasked⟩
    obtain ⟨hfound, -⟩ := h.deployment?_eq ho
    obtain ⟨r, hr, hshows⟩ := deployment_eq_ok.mp ho
    obtain rfl : r = .of o := Option.some.inj (hr.symm.trans hfound)
    have hin := (hmem (.of o)).mpr ⟨(mem_of_deployment? hfound).1, (hlooked o).mpr hasked⟩
    obtain ⟨o', ho', hshows'⟩ := exists_right_of_forall₂ hrows _ hin
    rwa [DeploymentRow.eq_of_shows hshows hshows']

/-- All that waits can be read. -/
theorem exists_pendingBefore (h : t.Filed) (app : AppId) (e : Environment) (n : DeploymentNumber) :
    ∃ os, t.pendingBefore app e n = .ok os := by
  have hread {rows : List DeploymentRow} (hrows : ∀ r ∈ rows, r ∈ t.deployments) :
      ∃ os, DeploymentRow.toDeployments rows = .ok os := by
    refine DeploymentRow.exists_toDeployments fun r hr => ?_
    obtain ⟨d, hevents, rfl⟩ := h.rows r (hrows r hr)
    exact ⟨d, DeploymentRow.shows_of hevents⟩
  obtain ⟨os, hos⟩ := hread fun r hr => (List.mem_filter.mp ((List.mergeSort_perm _ _).mem_iff.mp hr)).1
  exact ⟨os, mapError_eq_ok.mpr hos⟩

/-- The last number of an app is that of one of its deployments, and no other is larger. -/
theorem of_lastNumber? (h : t.Filed) {app : AppId} {c : Cell} (hc : t.lastNumber? app = some c) :
    ∃ last : DeploymentNumber, c = .integer last.toNat ∧ (t.deployment? ⟨app, last⟩).isSome = true ∧
      ∀ m, (t.deployment? ⟨app, m⟩).isSome = true → m.toNat ≤ last.toNat := by
  have hintegers : ∀ c ∈ (t.deployments.filter (·.app = app)).map (·.number), ∃ n, c = .integer n := by
    intro c hc
    obtain ⟨r, hr, rfl⟩ := List.mem_map.mp hc
    obtain ⟨d, -, rfl⟩ := h.rows r (List.mem_filter.mp hr).1
    exact ⟨_, rfl⟩
  obtain ⟨last, rfl, hlast, hmax⟩ := Cell.greatest?_integers hintegers hc
  obtain ⟨r, hr, hnumber⟩ := List.mem_map.mp hlast
  obtain ⟨hmem, happ⟩ := List.mem_filter.mp hr
  obtain ⟨d, -, rfl⟩ := h.rows r hmem
  obtain rfl : d.id.app = app := of_decide_eq_true happ
  refine ⟨d.id.number, hnumber.symm, ?_, fun m hm => ?_⟩
  · rw [h.deployment?_of_mem hmem (DeploymentRow.isOf_of.mpr rfl)]
    rfl
  · obtain ⟨r', hr'⟩ := Option.isSome_iff_exists.mp hm
    obtain ⟨hmem', hof'⟩ := mem_of_deployment? hr'
    obtain ⟨happ', hnumber'⟩ := DeploymentRow.isOf_iff.mp hof'
    have hle := hmax m.toNat (hnumber' ▸ List.mem_map_of_mem (List.mem_filter.mpr ⟨hmem', decide_eq_true happ'⟩))
    have hlast : (d.id.number.toNat : Int) = last := Cell.integer.inj hnumber
    rw [← hlast] at hle
    exact Int.ofNat_le.mp hle

theorem deployment?_of_lastNumber?_eq_none {app : AppId} (hnone : t.lastNumber? app = none) (m : DeploymentNumber) :
    t.deployment? ⟨app, m⟩ = none := by
  have hnil := Cell.greatest?_eq_none hnone
  cases hr : t.deployment? ⟨app, m⟩ with
  | none => rfl
  | some r =>
    obtain ⟨hmem, hof⟩ := mem_of_deployment? hr
    have happ : r.app = app := (DeploymentRow.isOf_iff.mp hof).1
    have hin : r.number ∈ (t.deployments.filter (·.app = app)).map (·.number) :=
      List.mem_map_of_mem (List.mem_filter.mpr ⟨hmem, decide_eq_true happ⟩)
    rw [hnil] at hin
    cases hin

theorem nextNumber_eq_ok {app : AppId} {n : DeploymentNumber} (hn : t.nextNumber app = .ok n) :
    ((t.lastNumber? app).getD (.integer 0)).successor? = some (n.toNat : Int) := by
  unfold nextNumber at hn
  split at hn
  · cases hn
  · next k hk =>
    split at hn
    · next number hnumber =>
      cases hn
      rw [hk, DeploymentNumber.ofInt?_eq_some.mp hnumber]
    · cases hn

/-- The next number is the first one, or the one after the last. -/
theorem nextNumber_cases (h : t.Filed) {app : AppId} {n : DeploymentNumber} (hn : t.nextNumber app = .ok n) :
    (n.toNat = 1 ∧ ∀ m, t.deployment? ⟨app, m⟩ = none) ∨
    ∃ last : DeploymentNumber, n.toNat = last.toNat + 1 ∧ (t.deployment? ⟨app, last⟩).isSome = true ∧
      ∀ m, (t.deployment? ⟨app, m⟩).isSome = true → m.toNat ≤ last.toNat := by
  have hsuccessor := nextNumber_eq_ok hn
  cases hlast : t.lastNumber? app with
  | none =>
    rw [hlast] at hsuccessor
    have hone := Cell.successor?_integer hsuccessor
    exact .inl ⟨by omega, deployment?_of_lastNumber?_eq_none hlast⟩
  | some c =>
    obtain ⟨last, rfl, hstored, hmax⟩ := h.of_lastNumber? hlast
    rw [hlast] at hsuccessor
    have hone := Cell.successor?_integer hsuccessor
    exact .inr ⟨last, by omega, hstored, hmax⟩

theorem pos_of_nextNumber (h : t.Filed) {app : AppId} {n : DeploymentNumber} (hn : t.nextNumber app = .ok n) :
    0 < n.toNat := by
  rcases h.nextNumber_cases hn with ⟨hone, -⟩ | ⟨last, hlast, -⟩
  · omega
  · omega

/-- **The next number comes right after all that are there.** -/
theorem isSome_iff_of_nextNumber (h : t.Filed) {app : AppId} {n : DeploymentNumber} (hn : t.nextNumber app = .ok n)
    {m : DeploymentNumber} (hm : 0 < m.toNat) : (t.deployment? ⟨app, m⟩).isSome = true ↔ m.toNat < n.toNat := by
  rcases h.nextNumber_cases hn with ⟨hone, hnone⟩ | ⟨last, hlast, hstored, hmax⟩
  · rw [hnone m]
    simp only [Option.isSome_none, Bool.false_eq_true, false_iff]
    omega
  · refine ⟨fun hsome => ?_, fun hlt => h.gapless ⟨app, last⟩ m hstored hm ?_⟩
    · have hle := hmax m hsome
      omega
    · show m.toNat ≤ last.toNat
      omega

end Filed

/-! ## What keeps the order -/

theorem filed_empty : empty.Filed :=
  ⟨List.forall_mem_nil _, List.nodup_nil, List.forall_mem_nil _, fun id m h => by cases h⟩

namespace Filed

/-- A change of apps that loses none of them, nor its name. -/
theorem of_apps (h : t.Filed) (hdeployments : t'.deployments = t.deployments)
    (hnames : ∀ app name, t.IsNamed app name → t'.IsNamed app name) : t'.Filed := by
  have hfound (id : DeploymentId) : t'.deployment? id = t.deployment? id := by
    rw [deployment?, deployment?, hdeployments]
  refine ⟨hdeployments ▸ h.rows, hdeployments ▸ h.nodup, fun r hr => ?_, fun id m hid hm hle => ?_⟩
  · obtain ⟨name, hname, happ⟩ := h.owned r (hdeployments ▸ hr)
    exact ⟨name, hname, hnames r.app name happ⟩
  · rw [hfound] at hid ⊢
    exact h.gapless id m hid hm hle

theorem updateDeployment (h : t.Filed) (id : DeploymentId) (s : DeploymentState) :
    (t.updateDeployment id (·.withState s)).Filed := by
  have hkeys : (t.updateDeployment id (·.withState s)).deployments.map (fun r => (r.app, r.number)) =
      t.deployments.map fun r => (r.app, r.number) := by
    rw [Tables.updateDeployment, List.map_map]
    refine List.map_congr_left fun r _ => ?_
    simp only [Function.comp]
    split <;> rfl
  have hfound (id' : DeploymentId) :
      ((t.updateDeployment id (·.withState s)).deployment? id').isSome = (t.deployment? id').isSome := by
    rw [deployment?_updateDeployment fun r id => r.isOf_withState s, Option.isSome_map]
  refine ⟨fun r hr => ?_, hkeys ▸ h.nodup, fun r hr => ?_, fun id' m hid hm hle => ?_⟩
  · obtain ⟨r₀, hr₀, rfl⟩ := List.mem_map.mp hr
    obtain ⟨d, hevents, rfl⟩ := h.rows r₀ hr₀
    split
    · exact ⟨{ d with state := s }, hevents, DeploymentRow.withState_of s⟩
    · exact ⟨d, hevents, rfl⟩
  · obtain ⟨r₀, hr₀, rfl⟩ := List.mem_map.mp hr
    have happ : (if r₀.isOf id = true then r₀.withState s else r₀).app = r₀.app := by split <;> rfl
    have hname : (if r₀.isOf id = true then r₀.withState s else r₀).appName = r₀.appName := by split <;> rfl
    rw [happ, hname]
    exact h.owned r₀ hr₀
  · rw [hfound] at hid ⊢
    exact h.gapless id' m hid hm hle

theorem changeStates (h : t.Filed) (ds : List Deployment) : (t.changeStates ds).Filed := by
  induction ds using List.reverseRecOn with
  | nil => exact h
  | append_singleton ds d ih =>
    rw [changeStates_concat]
    exact ih.updateDeployment d.id d.state

/-- A new deployment whose number leaves no gap. -/
theorem insertDeployment (h : t.Filed) (hevents : d.events = .empty) (hname : t.IsNamed d.id.app d.config.appName)
    (hnumber : ∀ m : DeploymentNumber, 0 < m.toNat → m.toNat < d.id.number.toNat →
      (t.deployment? ⟨d.id.app, m⟩).isSome = true)
    (ht' : t.insertDeployment (.of d) = .ok t') : t'.Filed := by
  have hfound := deployment?_insertDeployment (DeploymentRow.isOf_of.mpr rfl) ht'
  obtain ⟨hfree, -, rfl⟩ := insertDeployment_eq_ok.mp ht'
  refine ⟨?_, ?_, ?_, fun id m hid hm hle => ?_⟩
  · exact List.forall_mem_append.mpr ⟨h.rows, List.forall_mem_singleton.mpr ⟨d, hevents, rfl⟩⟩
  · rw [List.map_append, List.nodup_append]
    refine ⟨h.nodup, List.nodup_singleton _, fun k hk k' hk' => ?_⟩
    obtain ⟨r, hr, rfl⟩ := List.mem_map.mp hk
    rw [List.mem_singleton.mp hk']
    exact fun hkey => hfree r hr (Prod.mk.inj hkey)
  · exact List.forall_mem_append.mpr ⟨h.owned, List.forall_mem_singleton.mpr ⟨_, rfl, hname⟩⟩
  · rw [hfound] at hid ⊢
    split
    · rfl
    · next hne =>
      split at hid
      · next heq =>
        subst heq
        refine hnumber m hm (Nat.lt_of_le_of_ne hle fun hsame => hne ?_)
        rw [DeploymentNumber.toNat_inj.mp hsame]
      · exact h.gapless id m hid hm hle

theorem deleteApp (h : t.Filed) (app : AppId) : (t.deleteApp app).Filed := by
  have hsub : (t.deployments.filter (·.app ≠ app)).Sublist t.deployments := List.filter_sublist
  refine ⟨fun r hr => h.rows r (hsub.subset hr), h.nodup.sublist (hsub.map _), fun r hr => ?_, ?_⟩
  · obtain ⟨hr, hne⟩ := List.mem_filter.mp hr
    have hne : r.app ≠ app := of_decide_eq_true hne
    obtain ⟨name, hname, row, happ, hread⟩ := h.owned r hr
    exact ⟨name, hname, row, by rw [app?_deleteApp, if_neg hne, happ], hread⟩
  · intro id m hid hm hle
    rw [deployment?_deleteApp] at hid ⊢
    split at hid
    · cases hid
    · next hne =>
      rw [if_neg hne]
      exact h.gapless id m hid hm hle

end Filed

end Tables

end Rollout
