import Rollout.Proofs.Results
import Rollout.Store.Tables

/-!
# What rows are read as

An app is read from its row just if every column shows what the app has there (`AppRow.toApp_eq_ok`), and a deployment
likewise (`DeploymentRow.toDeployment_eq_ok`).
-/

namespace Rollout

theorem readName_eq_ok {text : String} {n : AppName} : readName text = .ok n ↔ text = n.text := by
  constructor
  · intro h
    unfold readName at h
    split at h
    · next name hname =>
      cases h
      unfold AppName.ofText? at hname
      split at hname
      · rw [← Option.some.inj hname]
      · cases hname
    · cases h
  · rintro rfl
    simp only [readName, AppName.ofText?_text]

theorem readUrl_eq_ok {text : String} {u : Url} : readUrl text = .ok u ↔ Url.parse text = .ok u := by
  unfold readUrl
  cases Url.parse text <;> simp

/-! ## Numbers of deployments -/

namespace DeploymentNumber

theorem toNat_lt (n : DeploymentNumber) : n.toNat < limit := n.val.toNat_lt

theorem toNat_inj {m n : DeploymentNumber} : m.toNat = n.toNat ↔ m = n := by
  cases m
  cases n
  simp [toNat, UInt32.toNat_inj]

theorem ofNat?_eq_some {k : Nat} {n : DeploymentNumber} : ofNat? k = some n ↔ n.toNat = k := by
  unfold ofNat?
  constructor
  · intro h
    split at h
    · next hlt =>
      cases h
      exact UInt32.toNat_ofNat_of_lt hlt
    · cases h
  · rintro rfl
    rw [if_pos n.toNat_lt]
    simp [toNat, Nat.toUInt32]

theorem ofInt?_eq_some {k : Int} {n : DeploymentNumber} : ofInt? k = some n ↔ k = n.toNat := by
  cases k with
  | ofNat k =>
    rw [ofInt?, ofNat?_eq_some, Int.ofNat_eq_natCast, Int.natCast_inj]
    exact eq_comm
  | negSucc k => simp [ofInt?]

end DeploymentNumber

theorem DeploymentRow.readNumber_eq_ok {c : Cell} {n : DeploymentNumber} :
    readNumber c = .ok n ↔ c = .integer n.toNat := by
  unfold readNumber
  split
  · next k =>
    rw [Cell.integer.injEq, ← DeploymentNumber.ofInt?_eq_some]
    cases DeploymentNumber.ofInt? k <;> simp
  · next hc =>
    constructor
    · intro h
      cases h
    · intro h
      exact absurd h (hc _)

/-! ## Apps -/

/-- The columns show a configuration. -/
structure SlotRow.Shows (s : SlotRow) (e : Environment) (c : EnvConfig) : Prop where
  target : s.target.read (e.columnPrefix ++ "_target") = .ok c.target
  version : s.version.read (e.columnPrefix ++ "_version") = .ok c.version
  vars : s.vars.read (e.columnPrefix ++ "_vars") = .ok c.vars

theorem SlotRow.toConfig_eq_ok {s : SlotRow} {e : Environment} {c : EnvConfig} :
    s.toConfig e = .ok c ↔ s.Shows e c := by
  simp only [toConfig, bind_eq_ok, pure_eq_ok]
  constructor
  · rintro ⟨target, htarget, version, hversion, vars, hvars, rfl⟩
    exact ⟨htarget, hversion, hvars⟩
  · rintro ⟨htarget, hversion, hvars⟩
    exact ⟨_, htarget, _, hversion, _, hvars, rfl⟩

namespace AppRow

/-- The columns show what an app has. -/
structure Shows (r : AppRow) (a : App) : Prop where
  id : r.id.read "id" = .ok a.id
  name : r.name.read "name" = .ok a.name.text
  production : r.production.Shows .production a.production
  staging : r.staging.Shows .staging a.staging
  versionControl : ∃ text token url, r.url.read "version_control_url" = .ok text ∧
    r.token.read "version_control_token" = .ok token ∧ text.mapM readUrl = .ok url ∧
    a.versionControl = url.map fun url => ⟨url, token⟩
  cleanup : ∃ time user, r.cleanupAt.read "cleanup_requested_at" = .ok time ∧
    r.cleanupBy.read "cleanup_requested_by" = .ok user ∧ a.cleanupRequested = AppRow.cleanup time user
  createdAt : r.createdAt.read "created_at" = .ok a.created.time
  createdBy : r.createdBy.read "created_by" = .ok a.created.user
  events : a.events = .empty

theorem toApp_eq_ok {r : AppRow} {a : App} : r.toApp = .ok a ↔ r.Shows a := by
  simp only [toApp, bind_eq_ok, pure_eq_ok, SlotRow.toConfig_eq_ok, readName_eq_ok]
  constructor
  · rintro ⟨id, hid, text, hname, production, hproduction, staging, hstaging, url, hurl, token, htoken, time, htime,
      user, huser, createdAt, hcreatedAt, createdBy, hcreatedBy, name, rfl, address, haddress, rfl⟩
    exact ⟨hid, hname, hproduction, hstaging, ⟨_, _, _, hurl, htoken, haddress, rfl⟩, ⟨_, _, htime, huser, rfl⟩,
      hcreatedAt, hcreatedBy, rfl⟩
  · rintro ⟨hid, hname, hproduction, hstaging, ⟨url, token, address, hurl, htoken, haddress, hversionControl⟩,
      ⟨time, user, htime, huser, hcleanup⟩, hcreatedAt, hcreatedBy, hevents⟩
    refine ⟨_, hid, _, hname, _, hproduction, _, hstaging, _, hurl, _, htoken, _, htime, _, huser, _, hcreatedAt, _,
      hcreatedBy, _, rfl, _, haddress, ?_⟩
    rw [← hversionControl, ← hcleanup, ← hevents]

end AppRow

/-! ## Deployments -/

namespace DeploymentRow

/-- The columns show what a deployment has. -/
structure Shows (r : DeploymentRow) (d : Deployment) : Prop where
  app : r.app = d.id.app
  number : r.number = .integer d.id.number.toNat
  appName : r.appName.read "config_appname" = .ok d.config.appName.text
  environment : r.environment.read "config_environment" = .ok d.config.environment
  target : r.target.read "config_target" = .ok d.config.target
  vars : r.vars.read "config_vars" = .ok d.config.vars
  status : r.status.read "state_status" = .ok d.state.status
  error : r.error.read "state_error_code" = .ok d.state.error
  startedAt : r.startedAt.read "state_started_at" = .ok d.state.startedAt
  finishedAt : r.finishedAt.read "state_finished_at" = .ok d.state.finishedAt
  requestedAt : r.requestedAt.read "requested_at" = .ok d.requested.time
  requestedBy : r.requestedBy.read "requested_by" = .ok d.requested.user
  events : d.events = .empty

theorem toDeployment_eq_ok {r : DeploymentRow} {d : Deployment} : r.toDeployment = .ok d ↔ r.Shows d := by
  simp only [toDeployment, readColumns, withName, bind_eq_ok, pure_eq_ok, map_eq_ok, readNumber_eq_ok, readName_eq_ok]
  constructor
  · rintro ⟨columns, ⟨number, hnumber, text, hname, environment, henvironment, target, htarget, vars, hvars, status,
      hstatus, error, herror, startedAt, hstartedAt, finishedAt, hfinishedAt, requestedAt, hrequestedAt, requestedBy,
      hrequestedBy, rfl⟩, name, hname', rfl⟩
    exact ⟨rfl, hnumber, hname' ▸ hname, henvironment, htarget, hvars, hstatus, herror, hstartedAt, hfinishedAt,
      hrequestedAt, hrequestedBy, rfl⟩
  · rintro ⟨happ, hnumber, hname, henvironment, htarget, hvars, hstatus, herror, hstartedAt, hfinishedAt, hrequestedAt,
      hrequestedBy, hevents⟩
    refine ⟨_, ⟨_, hnumber, _, hname, _, henvironment, _, htarget, _, hvars, _, hstatus, _, herror, _, hstartedAt, _,
      hfinishedAt, _, hrequestedAt, _, hrequestedBy, rfl⟩, _, rfl, ?_⟩
    rw [happ, ← hevents]

/-- What several rows are read as is what each of them is read as. -/
theorem toDeployments_eq_ok {rows : List DeploymentRow} {ds : List Deployment} (h : toDeployments rows = .ok ds) :
    List.Forall₂ Shows rows ds := by
  simp only [toDeployments, bind_eq_ok, mapM_eq_ok] at h
  obtain ⟨columns, hcolumns, hnames⟩ := h
  induction hcolumns generalizing ds with
  | nil => cases hnames; exact .nil
  | cons hr hrows ih =>
    cases hnames with
    | cons hd hds => exact .cons (toDeployment_eq_ok.mp (bind_eq_ok.mpr ⟨_, hr, hd⟩)) (ih hds)

/-- Several rows can be read if each of them can. -/
theorem exists_toDeployments {rows : List DeploymentRow} (h : ∀ r ∈ rows, ∃ d, Shows r d) :
    ∃ ds, toDeployments rows = .ok ds := by
  have hread (r : DeploymentRow) (hr : r ∈ rows) : ∃ columns, r.readColumns = .ok columns ∧
      ∃ d, withName columns = .ok d := by
    obtain ⟨d, hshows⟩ := h r hr
    obtain ⟨columns, hcolumns, hname⟩ := bind_eq_ok.mp (toDeployment_eq_ok.mpr hshows)
    exact ⟨columns, hcolumns, d, hname⟩
  obtain ⟨columns, hcolumns⟩ := exists_mapM_eq_ok (f := readColumns) fun r hr => (hread r hr).imp fun _ => And.left
  have hnamed : ∀ c ∈ columns, ∃ d, withName c = .ok d := by
    intro c hc
    obtain ⟨r, hr, hc⟩ := exists_left_of_forall₂ (mapM_eq_ok.mp hcolumns) c hc
    obtain ⟨c', hc', hname⟩ := hread r hr
    exact Except.ok.inj (hc.symm.trans hc') ▸ hname
  obtain ⟨ds, hds⟩ := exists_mapM_eq_ok hnamed
  exact ⟨ds, bind_eq_ok.mpr ⟨columns, hcolumns, hds⟩⟩

end DeploymentRow

end Rollout
