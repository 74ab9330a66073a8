import Rollout.Proofs.UseCases.Calls
import Rollout.Proofs.UseCases.Naming

/-!
# Names of apps when calls overlap

Any number of calls create and change apps, step by step and in any order. A call looks at the names in use before it
writes, and others may write in between: what it was told is free may have been taken since, but only by writes that it
has not seen (`Checked`).

So two apps of one name can come to be on one target, but only by two calls that overlap: the later one to write had
looked at the names before the earlier one wrote (`overlap_of_clash`). Two calls that do overlap so can both go through
(`clash_of_rush`).
-/

namespace Rollout

/-- Calls on one store. Meanwhile everything but the apps may change. -/
def callSharing : Sharing AppErrand AppCall Site where
  enter := .enter
  admits _ _ := true
  step := AppCall.step
  permits s s' := s'.tables.apps = s.tables.apps && s'.writes = s.writes

/-! ## What holds of calls between their steps -/

/-- Two calls on the apps `i` and `j` that both asked for the target overlap: the one that wrote later had looked at the
names before the other one wrote. -/
def Overlap (ws : List AppWrite) (i j : Column AppId) (target : TargetId) : Prop :=
  ∃ (m n : Nat) (w w' : AppWrite), m < n ∧ ws[m]? = some w ∧ ws[n]? = some w' ∧ w'.seen ≤ m ∧
    target ∈ w.targets ∧ target ∈ w'.targets ∧
    (i = .value w.app ∧ j = .value w'.app ∨ i = .value w'.app ∧ j = .value w.app)

/-- What a call was told is free is free, or was taken by a write that the call has not seen. -/
structure Checked (apps : List AppRow) (ws : List AppWrite) (p : AppCall) (name : Column String)
    (required : Requirement × Requirement) : Prop where
  seen : p.seen ≤ ws.length
  taken : ∀ target, Clears required target → ∀ r ∈ apps, r.name = name → r.id ≠ .value p.app → r.isOn target = true →
    ∃ m w, p.seen ≤ m ∧ ws[m]? = some w ∧ r.id = .value w.app ∧ target ∈ w.targets

/-- The app that is to change has this name, if a name was looked at. -/
def Named (apps : List AppRow) (app : AppId) (name : Column String) (required : Requirement × Requirement) : Prop :=
  ∀ target, Clears required target → ∃ r ∈ apps, r.id = .value app ∧ r.name = name

/-- A call that is going to write, with what it was told and what it has built. -/
structure AppCall.Writes (apps : List AppRow) (ws : List AppWrite) (p : AppCall) (name : Column String)
    (required : Requirement × Requirement) (a : App) : Prop where
  checked : Checked apps ws p name required
  builds : Builds p.app name required a
  named : (∀ e ∈ Aggregate.pending a, e.founded = none) → Named apps p.app name required

/-- What holds of a call between its steps. -/
def AppCall.Sound (apps : List AppRow) (ws : List AppWrite) (p : AppCall) : Prop :=
  match p.phase with
  | .entered _ | .ended _ => True
  | .checked _ required => ∃ name, Checked apps ws p name required ∧ Named apps p.app name required
  | .ready required built => ∀ a, built = .ok a → ∃ name, p.Writes apps ws name required a

/-- What holds of the apps and the writes at all times. -/
structure Tidy (apps : List AppRow) (ws : List AppWrite) : Prop where
  nodup : (apps.map (·.id)).Nodup
  clashes : ∀ r₁ ∈ apps, ∀ r₂ ∈ apps, r₁.id ≠ r₂.id → r₁.name = r₂.name → ∀ target, r₁.isOn target = true →
    r₂.isOn target = true → Overlap ws r₁.id r₂.id target

theorem Overlap.symm {ws : List AppWrite} {i j : Column AppId} (h : Overlap ws i j target) :
    Overlap ws j i target := by
  obtain ⟨m, n, w, w', hlt, hm, hn, hseen, hw, hw', hids⟩ := h
  exact ⟨m, n, w, w', hlt, hm, hn, hseen, hw, hw', hids.symm.imp And.symm And.symm⟩

/-! ## A write -/

section Write

variable {t t' : Tables} {ws : List AppWrite} {p q : AppCall} {app : AppId} {a : App}

theorem Named.of_persists (h : Named t.apps app name required) (hpersists : t.Persists t') :
    Named t'.apps app name required := by
  intro target hclears
  obtain ⟨r, hr, hid, hname⟩ := h target hclears
  obtain ⟨r', hr', hid', hname'⟩ := hpersists r hr
  exact ⟨r', hr', hid'.trans hid, hname'.trans hname⟩

/-- An app that is on a target after a write was there before, or it is the app that was written and its name was free
on the target. -/
theorem Builds.on_cases (hbuilds : Builds app name required a) (hnodup : (t.apps.map (·.id)).Nodup)
    (hnamed : (∀ e ∈ Aggregate.pending a, e.founded = none) → Named t.apps app name required)
    (hwritten : (Aggregate.pending a).foldlM Tables.applyAppEvent t = .ok t') {r' : AppRow} (hr' : r' ∈ t'.apps)
    (hon : r'.isOn target = true) :
    (∃ r ∈ t.apps, r.id = r'.id ∧ r.name = r'.name ∧ r.isOn target = true) ∨
      r'.id = .value app ∧ r'.name = name ∧ Clears required target := by
  have hclears (htarget : target ∈ (Aggregate.pending a).flatMap AppEvent.targets) : Clears required target := by
    obtain ⟨e, he, htarget⟩ := List.mem_flatMap.mp htarget
    exact hbuilds.targets e he target htarget
  cases Tables.rowFrom_of_events hbuilds.events hwritten hr' with
  | other hr _ => exact .inl ⟨r', hr, rfl, rfl, hon⟩
  | @kept r hr hid hid' hname hold hon' =>
    rcases hon' target hon with hon | htarget
    · exact .inl ⟨r, hr, hid'.symm, hname.symm, hon⟩
    · obtain ⟨r₀, hr₀, hid₀, hname₀⟩ := hnamed hold target (hclears htarget)
      obtain rfl : r₀ = r := List.inj_on_of_nodup_map hnodup hr₀ hr (hid₀.trans hid.symm)
      exact .inr ⟨hid'.trans hid, hname.trans hname₀, hclears htarget⟩
  | created he hnew hid hname hon' =>
    exact .inr ⟨hid, hname.trans (hbuilds.founded _ he _ hnew), hclears (hon' target hon)⟩

/-- What is written behind others leaves them where they are. -/
theorem getElem?_concat {m : Nat} {w w' : AppWrite} (h : ws[m]? = some w) : (ws ++ [w'])[m]? = some w := by
  have hlt := (List.getElem?_eq_some_iff.mp h).1
  rw [List.getElem?_append_left hlt, h]

theorem Overlap.concat {i j : Column AppId} {w : AppWrite} (h : Overlap ws i j target) :
    Overlap (ws ++ [w]) i j target := by
  obtain ⟨m, n, w₁, w₂, hlt, hm, hn, hrest⟩ := h
  exact ⟨m, n, w₁, w₂, hlt, getElem?_concat hm, getElem?_concat hn, hrest⟩

theorem Tidy.of_written (h : Tidy t.apps ws) (hp : p.Writes t.apps ws name required a)
    (hwritten : (Aggregate.pending a).foldlM Tables.applyAppEvent t = .ok t') :
    Tidy t'.apps (ws ++ [⟨p.app, askedTargets required, p.seen⟩]) := by
  have hplaced {r : AppRow} (hr : r ∈ t'.apps) {target : TargetId} (hon : r.isOn target = true) :=
    hp.builds.on_cases h.nodup hp.named hwritten hr hon
  -- the app that was written meets one that was there before
  have hmeets {r₁ r : AppRow} {target : TargetId} (hid₁ : r₁.id = .value p.app) (hname₁ : r₁.name = name)
      (hclears : Clears required target) (hr : r ∈ t.apps) (hne : r₁.id ≠ r.id) (hname : r₁.name = r.name)
      (hon : r.isOn target = true) : Overlap (ws ++ [⟨p.app, askedTargets required, p.seen⟩]) r₁.id r.id target := by
    have hother : r.id ≠ .value p.app := fun hid => hne (hid₁.trans hid.symm)
    obtain ⟨m, w, hseen, hm, hid, hw⟩ := hp.checked.taken target hclears r hr (hname.symm.trans hname₁) hother hon
    have hlt := (List.getElem?_eq_some_iff.mp hm).1
    exact ⟨m, ws.length, w, _, hlt, getElem?_concat hm, List.getElem?_concat_length, hseen, hw,
      mem_askedTargets hclears, .inr ⟨hid₁, hid⟩⟩
  refine ⟨Tables.nodup_of_events h.nodup hwritten, fun r₁ hr₁ r₂ hr₂ hne hname target hon₁ hon₂ => ?_⟩
  rcases hplaced hr₁ hon₁ with ⟨o₁, ho₁, hid₁, hname₁, hon₁⟩ | ⟨hid₁, hname₁, hclears⟩
  · rcases hplaced hr₂ hon₂ with ⟨o₂, ho₂, hid₂, hname₂, hon₂⟩ | ⟨hid₂, hname₂, hclears⟩
    · have hne : o₁.id ≠ o₂.id := by rwa [hid₁, hid₂]
      have hoverlap := h.clashes o₁ ho₁ o₂ ho₂ hne (hname₁.trans (hname.trans hname₂.symm)) target hon₁ hon₂
      rw [hid₁, hid₂] at hoverlap
      exact hoverlap.concat
    · have hne : r₂.id ≠ o₁.id := by rw [hid₁]; exact Ne.symm hne
      have hoverlap := hmeets hid₂ hname₂ hclears ho₁ hne (hname.symm.trans hname₁.symm) hon₁
      rw [hid₁] at hoverlap
      exact hoverlap.symm
  · rcases hplaced hr₂ hon₂ with ⟨o₂, ho₂, hid₂, hname₂, hon₂⟩ | ⟨hid₂, -, -⟩
    · have hne : r₁.id ≠ o₂.id := by rwa [hid₂]
      have hoverlap := hmeets hid₁ hname₁ hclears ho₂ hne (hname.trans hname₂.symm) hon₂
      rwa [hid₂] at hoverlap
    · exact absurd (hid₁.trans hid₂.symm) hne

/-- What a call was told does not become worse than by a write that it has not seen. -/
theorem Checked.of_written {name' : Column String} {required' : Requirement × Requirement}
    (hq : Checked t.apps ws q name' required') (h : Tidy t.apps ws) (hp : p.Writes t.apps ws name required a)
    (hwritten : (Aggregate.pending a).foldlM Tables.applyAppEvent t = .ok t') :
    Checked t'.apps (ws ++ [⟨p.app, askedTargets required, p.seen⟩]) q name' required' := by
  refine ⟨by rw [List.length_append]; exact Nat.le_add_right_of_le hq.seen, fun target hclears r hr hname hid hon => ?_⟩
  rcases hp.builds.on_cases h.nodup hp.named hwritten hr hon with ⟨o, ho, hido, hnameo, hono⟩ | ⟨hidp, -, hclearsp⟩
  · have hido' : o.id ≠ .value q.app := by rwa [hido]
    obtain ⟨m, w, hseen, hm, hidw, hw⟩ := hq.taken target hclears o ho (hnameo.trans hname) hido' hono
    exact ⟨m, w, hseen, getElem?_concat hm, hido.symm.trans hidw, hw⟩
  · exact ⟨ws.length, _, hq.seen, List.getElem?_concat_length, hidp, mem_askedTargets hclearsp⟩

end Write

/-! ## Calls -/

namespace AppCall

variable {t t' : Tables} {ws ws' : List AppWrite} {p p' q : AppCall}

theorem Sound.of_ended {apps : List AppRow} {result : Except CommandError Unit} (h : p.phase = .ended result) :
    p.Sound apps ws := by
  rw [Sound, h]
  trivial

/-- What a call has just been told. -/
theorem checked_of_free {apps : List AppRow} {phase : AppPhase} {app : AppId}
    (h : ∀ target, Clears required target → ∀ r ∈ apps, r.name = name → r.id ≠ .value app → r.isOn target = false) :
    Checked apps ws ⟨app, ws.length, phase⟩ name required := by
  refine ⟨Nat.le_refl _, fun target hclears r hr hname hid hon => ?_⟩
  rw [h target hclears r hr hname hid] at hon
  cases hon

theorem Sound.of_effect (hp : p.Sound t.apps ws) (h : Effect p t ws p' t' ws') : p'.Sound t'.apps ws' := by
  cases h with
  | ends hphase => exact .of_ended hphase
  | @checksNew input created required hrequired =>
    intro a ha
    obtain ⟨hbuilds, e, he, hnew⟩ := Builds.of_new ha
    refine ⟨.value input.name.text, checked_of_free fun target hclears r hr hname _ => ?_, hbuilds, fun hold => ?_⟩
    · rw [← hrequired] at hclears
      exact Tables.not_isOn_of_checkNaming hclears hr hname
    · exact absurd (hold e he) hnew
  | checks hrequired =>
    rcases hrequired with rfl | hrequired
    · refine ⟨.value "", checked_of_free fun target hclears => ?_, fun target hclears => ?_⟩
      · exact absurd hclears not_clears_empty
      · exact absurd hclears not_clears_empty
    · obtain ⟨row, hrow, hid, hfree⟩ := Tables.of_checkNamingById hrequired
      exact ⟨row.name, checked_of_free hfree, fun _ _ => ⟨row, hrow, hid, rfl⟩⟩
  | @loads input required a hphase ha =>
    rw [Sound, hphase] at hp
    obtain ⟨name, hchecked, hnamed⟩ := hp
    obtain ⟨r, hr, hshows⟩ := Tables.app_eq_ok.mp ha
    intro a' ha'
    have hbuilds : Builds p.app name required a' :=
      .of_change (Tables.id_of_app?_shows hr hshows) hshows.events ha'
    exact ⟨name, ⟨hchecked.seen, hchecked.taken⟩, hbuilds, fun _ => hnamed⟩
  | writes _ _ hphase => exact .of_ended hphase

/-- What a step of one call does to what is stored, and to the other calls. -/
theorem Effect.others (h : Effect p t ws p' t' ws') (hp : p.Sound t.apps ws) (htidy : Tidy t.apps ws) :
    Tidy t'.apps ws' ∧ ∀ q : AppCall, q.Sound t.apps ws → q.Sound t'.apps ws' := by
  cases h with
  | @writes required a _ _ _ hphase hwritten _ =>
    rw [Sound, hphase] at hp
    obtain ⟨name, hp⟩ := hp a rfl
    have hpersists := Tables.persists_of_events (fun e he => (hp.builds.events e he).2) hwritten
    refine ⟨htidy.of_written hp hwritten, fun q hq => ?_⟩
    unfold Sound at hq ⊢
    split
    · trivial
    · trivial
    · next hphase =>
      rw [hphase] at hq
      obtain ⟨name', hchecked, hnamed⟩ := hq
      exact ⟨name', hchecked.of_written htidy hp hwritten, hnamed.of_persists hpersists⟩
    · next hphase =>
      rw [hphase] at hq
      intro a' ha'
      obtain ⟨name', hwrites⟩ := hq a' ha'
      exact ⟨name', hwrites.checked.of_written htidy hp hwritten, hwrites.builds,
        fun hold => (hwrites.named hold).of_persists hpersists⟩
  | _ => exact ⟨htidy, fun _ hq => hq⟩

end AppCall

/-- What holds of calls on a site at all times. -/
structure NamingScene (s : Scene AppCall Site) : Prop where
  tidy : Tidy s.shared.tables.apps s.shared.writes
  sound : ∀ p ∈ s.parties, p.Sound s.shared.tables.apps s.shared.writes

/-- **Whatever happens, no clash is there without an overlap.** -/
theorem NamingScene.of_goes {s s' : Scene AppCall Site} (h : NamingScene s) (hgoes : Scene.Goes callSharing s s') :
    NamingScene s' := by
  cases hgoes with
  | stays => exact h
  | enters _ =>
    refine ⟨h.tidy, fun p hp => ?_⟩
    rcases List.mem_append.mp hp with hp | hp
    · exact h.sound p hp
    · rw [List.mem_singleton.mp hp]
      exact trivial
  | @steps before after p p' site site' hstep =>
    have heffect := AppCall.effect_of_step hstep
    have hp := h.sound p (by simp)
    obtain ⟨htidy, hothers⟩ := heffect.others hp h.tidy
    refine ⟨htidy, fun q hq => ?_⟩
    rcases List.mem_cons.mp (List.perm_middle.mem_iff.mp hq) with rfl | hq
    · exact hp.of_effect heffect
    · exact hothers q (h.sound q (List.perm_middle.mem_iff.mpr (List.mem_cons_of_mem p hq)))
  | @leaves before after p =>
    refine ⟨h.tidy, fun q hq => h.sound q ?_⟩
    exact List.perm_middle.mem_iff.mpr (List.mem_cons_of_mem p hq)
  | @changes ps site site' hpermits =>
    simp only [callSharing, Bool.and_eq_true, decide_eq_true_eq] at hpermits
    refine ⟨?_, fun p hp => ?_⟩
    · show Tidy site'.tables.apps site'.writes
      rw [hpermits.1, hpermits.2]
      exact h.tidy
    · show p.Sound site'.tables.apps site'.writes
      rw [hpermits.1, hpermits.2]
      exact h.sound p hp

/-- **Two apps of one name come to be on one target only by calls that overlap**, whatever calls there are from an empty
database on, and whatever order their steps come in. -/
theorem overlap_of_clash (bus : List Subscriber) (hub : Hub Work) (as : List (Action AppErrand Site)) :
    let s := (Scene.mk [] ⟨⟨.empty, bus, hub⟩, []⟩).run callSharing as
    ∀ r₁ ∈ s.shared.tables.apps, ∀ r₂ ∈ s.shared.tables.apps, r₁.id ≠ r₂.id → r₁.name = r₂.name →
      ∀ target, r₁.isOn target = true → r₂.isOn target = true → Overlap s.shared.writes r₁.id r₂.id target := by
  have hempty : NamingScene ⟨[], ⟨⟨.empty, bus, hub⟩, []⟩⟩ :=
    ⟨⟨List.nodup_nil, List.forall_mem_nil _⟩, List.forall_mem_nil _⟩
  exact (Scene.run_induction (fun _ _ => NamingScene.of_goes) hempty as).tidy.clashes

/-! ## Two calls that both go through -/

namespace Rush

def name : AppName := ⟨"shop", by decide⟩

def config : EnvConfig := ⟨default, default, none⟩

def input : NewApp := ⟨name, config, config, none⟩

def errand (id : AppId) : AppErrand := ⟨id, .create input ⟨default, default⟩⟩

def first : AppId := default

def second : AppId := ⟨⟨1⟩⟩

/-- A target is added, both calls look at the names, and both write. -/
def actions : List (Action AppErrand Site) :=
  [.elsewhere fun s => { s with store := { s.store with
      db := { s.store.db with tables := { s.tables with targets := [⟨default, false⟩] } } } },
    .enter (errand first), .enter (errand second), .step 0, .step 1, .step 0, .step 1]

def site : Site := ⟨⟨.empty, [], ⟨.empty ⟨1, .zero, .zero⟩ 1, []⟩⟩, []⟩

def scene : Scene AppCall Site := (Scene.mk [] site).run callSharing actions

/-- The apps of both calls have the name, and are on the target. -/
theorem exists_rows :
    ∃ r₁ ∈ scene.shared.tables.apps, ∃ r₂ ∈ scene.shared.tables.apps, r₁.id = .value first ∧ r₂.id = .value second ∧
      r₁.name = r₂.name ∧ r₁.isOn default = true ∧ r₂.isOn default = true := by decide +kernel

theorem first_ne_second : (Column.value first : Column AppId) ≠ .value second := by decide

end Rush

open Rush in
/-- The calls of two apps that have come to be on one target overlap. -/
theorem overlap_of_clash_rush : Overlap scene.shared.writes (.value first) (.value second) default := by
  obtain ⟨r₁, hr₁, r₂, hr₂, hid₁, hid₂, hname, hon₁, hon₂⟩ := exists_rows
  have hne : r₁.id ≠ r₂.id := by rw [hid₁, hid₂]; exact first_ne_second
  have hoverlap := overlap_of_clash site.store.bus site.store.hub actions r₁ hr₁ r₂ hr₂ hne hname default hon₁ hon₂
  rw [hid₁, hid₂] at hoverlap
  exact hoverlap

open Rush in
/-- **Two new apps may get one name on one target**: both calls look at the names before either writes. -/
theorem clash_of_rush :
    ∃ r₁ ∈ ((Scene.mk [] site).run callSharing actions).shared.tables.apps,
      ∃ r₂ ∈ ((Scene.mk [] site).run callSharing actions).shared.tables.apps,
        r₁.id ≠ r₂.id ∧ r₁.name = r₂.name ∧ r₁.isOn default = true ∧ r₂.isOn default = true := by
  obtain ⟨r₁, hr₁, r₂, hr₂, hid₁, hid₂, hname, hon₁, hon₂⟩ := exists_rows
  exact ⟨r₁, hr₁, r₂, hr₂, by rw [hid₁, hid₂]; exact first_ne_second, hname, hon₁, hon₂⟩

end Rollout
