import Rollout.Proofs.Files
import Rollout.Runner

/-!
# Directories of apps

All directories of an app are at one place and below it (`Artifacts.HasDirectory`). They come from `prepareBuild` for
a deployment of the app alone (`Artifacts.hasDirectory_of_prepareBuild`), as a runner and its log write to files only
(`Build.writes_runAndClose`), and a cleanup that succeeds leaves none (`Artifacts.not_hasDirectory_of_cleanup`).
-/

namespace Rollout

/-! ## Paths -/

namespace Path

variable {p q : Path} {text : String}

theorem IsPlain.append (hp : p.IsPlain) (hq : q.IsPlain) : IsPlain (p ++ q) := List.forall_mem_append.mpr ⟨hp, hq⟩

/-- A text that does not begin with a full stop is a name. -/
theorem isPlain_of_head {c : Char} {cs : List Char} (htext : text.toList = c :: cs) (hc : c ≠ '.') :
    IsPlain [text] := by
  have hne (s : String) (hs : s.toList.head? ≠ some c) : text ≠ s := by
    rintro rfl
    exact hs (by rw [htext]; rfl)
  refine List.forall_mem_singleton.mpr ⟨?_, hne ".." (by simpa using Ne.symm hc)⟩
  have hempty : text ≠ "" := hne "" (by simp)
  have hdot : text ≠ "." := hne "." (by simpa using Ne.symm hc)
  simp [isStay, hempty, hdot]

theorem isPlain_app (app : AppId) : IsPlain [toString app] := by
  have hlength : (toString app).toList.length = 36 := app.uuid.length_toString
  have hne (s : String) (hs : s.toList.length ≠ 36) : toString app ≠ s := fun heq => hs (heq ▸ hlength)
  refine List.forall_mem_singleton.mpr ⟨?_, hne ".." (by decide)⟩
  simp [isStay, hne "" (by decide), hne "." (by decide)]

/-- A number is told by digits. -/
theorem exists_head_number (n : DeploymentNumber) : ∃ c cs, (toString n).toList = c :: cs ∧ c ≠ '.' := by
  have htext : (toString n).toList = Nat.toDigits 10 n.toNat := by
    show (toString n.toNat).toList = _
    rw [Nat.toString_eq_ofList_toDigits, String.toList_ofList]
  cases hdigits : Nat.toDigits 10 n.toNat with
  | nil => exact absurd hdigits Nat.toDigits_ne_nil
  | cons c cs =>
    have hmem : c ∈ Nat.toDigits 10 n.toNat := by
      rw [hdigits]
      exact List.mem_cons_self
    have hdigit : c.isDigit = true := Nat.isDigit_of_mem_toDigits (by decide) (by decide) hmem
    refine ⟨c, cs, htext.trans hdigits, ?_⟩
    rintro rfl
    cases hdigit

theorem isPlain_number (n : DeploymentNumber) : IsPlain [toString n] := by
  obtain ⟨c, cs, htext, hc⟩ := exists_head_number n
  exact isPlain_of_head htext hc

end Path

namespace Artifacts

theorem isPlain_appDir (app : AppId) : (appDir app).IsPlain :=
  Path.IsPlain.append (p := ["apps"]) (List.forall_mem_singleton.mpr (by decide)) (Path.isPlain_app app)

theorem isPlain_buildDir (id : DeploymentId) : (buildDir id).IsPlain :=
  (isPlain_appDir id.app).append
    (Path.IsPlain.append (p := ["deployments"]) (List.forall_mem_singleton.mpr (by decide))
      (Path.isPlain_number id.number))

theorem isPlain_logsDir (app : AppId) : (logsDir app).IsPlain :=
  (isPlain_appDir app).append (List.forall_mem_singleton.mpr (by decide))

theorem isPlain_logPath (id : DeploymentId) : (logPath id).IsPlain := by
  obtain ⟨c, cs, htext, hc⟩ := Path.exists_head_number id.number
  have hname : (toString id.number ++ ".log").toList = c :: (cs ++ ".log".toList) := by
    rw [String.toList_append, htext, List.cons_append]
  exact (isPlain_logsDir id.app).append (Path.isPlain_of_head hname hc)

/-- Directories of two apps do not lie on one way. -/
theorem app_eq_of_way {app app' : AppId} {q rest : Path} (hq : appDir app <+: q) (hway : q <+: appDir app' ++ rest) :
    app = app' := by
  obtain ⟨s, hs⟩ := hq.trans hway
  have hlists : "apps" :: toString app :: s = "apps" :: toString app' :: rest := hs
  obtain ⟨-, hlists⟩ := List.cons.inj hlists
  exact EntityId.toString_inj.mp (List.cons.inj hlists).1

/-! ## Tasks -/

variable {f f' : Files} {app app' : AppId} {id : DeploymentId} {c : Context} {now : Instant} {dataDir : String}

/-- **What every task keeps holds after all of them**, and also after a failure. -/
theorem perform_induction {I : Files → Prop} {ts : List Task} (hacts : ∀ t ∈ ts, ∀ f, I f → I (t.act f).2) (h : I f) :
    I (perform dataDir ts f).2 := by
  induction ts generalizing f with
  | nil => exact h
  | cons t ts ih =>
    obtain ⟨hact, hrest⟩ := List.forall_mem_cons.mp hacts
    have hafter := hact f h
    rw [perform]
    rcases hdone : t.act f with ⟨_ | _, f'⟩
    · rw [hdone] at hafter
      exact hafter
    · rw [hdone] at hafter
      exact ih hrest hafter

theorem performIn_induction {I : Files → Prop} {ts : List Task} (hacts : ∀ t ∈ ts, ∀ f, I f → I (t.act f).2)
    (h : I f) : I (performIn c now dataDir ts f).2 := by
  unfold performIn
  split
  · exact h
  · exact perform_induction hacts h

/-- Tasks succeed if each does after those before it. -/
theorem perform_cons_eq_ok {t : Task} {ts : List Task} : perform dataDir (t :: ts) f = (.ok (), f') ↔
    ∃ f₁, t.act f = (.ok (), f₁) ∧ perform dataDir ts f₁ = (.ok (), f') := by
  rw [perform]
  rcases t.act f with ⟨_ | _, f₁⟩ <;> simp

theorem performIn_eq_ok {ts : List Task} : performIn c now dataDir ts f = (.ok (), f') ↔
    c.stop? now = none ∧ perform dataDir ts f = (.ok (), f') := by
  unfold performIn
  cases c.stop? now with
  | some reason => simp
  | none => simp [Prod.ext_iff, mapError_eq_ok]

/-- Tasks that nobody stops and none of which fails succeed. -/
theorem exists_performIn {ts : List Task} (hgo : c.stop? now = none)
    (hdone : ∀ failure, (performIn c now dataDir ts f).1 ≠ .error (.failed failure)) :
    ∃ f', performIn c now dataDir ts f = (.ok (), f') := by
  unfold performIn at hdone ⊢
  rw [hgo] at hdone ⊢
  rcases hperform : perform dataDir ts f with ⟨failure | _, f'⟩
  · rw [hperform] at hdone
    exact absurd rfl (hdone failure)
  · exact ⟨f', rfl⟩

/-- To look for a reason to stop between tasks makes no difference, as no time passes. -/
theorem performIn_append (ts ts' : List Task) : performIn c now dataDir (ts ++ ts') f =
    match performIn c now dataDir ts f with
    | (.error e, f) => (.error e, f)
    | (.ok _, f) => performIn c now dataDir ts' f := by
  unfold performIn
  cases c.stop? now with
  | some reason => rfl
  | none =>
    induction ts generalizing f with
    | nil => rfl
    | cons t ts ih =>
      simp only [List.cons_append, perform]
      rcases t.act f with ⟨_ | _, f₁⟩
      · rfl
      · exact ih

theorem writes_touch (p : Path) (f : Files) : f.Writes (touch p f).2 := by
  unfold touch
  split
  · next h => exact .of_append h
  · exact .refl f

/-! ## Directories of apps -/

/-- A directory of the app is there. -/
def HasDirectory (f : Files) (app : AppId) : Prop := ∃ q, appDir app <+: q ∧ f.node? q = some .directory

theorem hasDirectory_of_writes (h : f.Writes f') : HasDirectory f' app ↔ HasDirectory f app :=
  exists_congr fun q => and_congr_right fun _ => h.directory_iff q

/-- What is done to make a build directory. -/
theorem prepareBuild_eq : prepareBuild c now dataDir id f = performIn c now dataDir
    [⟨"Failed to clear build directory", buildDir id, clear (buildDir id)⟩,
     ⟨"Failed to create build directory", buildDir id, fun f => f.createDirectory (buildDir id)⟩,
     ⟨"Failed to create logs directory", logsDir id.app, fun f => f.createDirectory (logsDir id.app)⟩,
     ⟨"Failed to open deployment log", logPath id, touch (logPath id)⟩] f :=
  (performIn_append [_] [_, _, _]).symm

theorem isTree_prepareBuild (h : f.IsTree) : (prepareBuild c now dataDir id f).2.IsTree := by
  rw [prepareBuild_eq]
  refine performIn_induction (I := Files.IsTree) (fun t ht f hf => ?_) h
  simp only [List.mem_cons, List.not_mem_nil, or_false] at ht
  rcases ht with rfl | rfl | rfl | rfl
  · exact hf.clear (buildDir id)
  · exact hf.createDirectory (buildDir id)
  · exact hf.createDirectory (logsDir id.app)
  · exact hf.writes (writes_touch (logPath id) f)

/-- **A build directory is made for an app of its own.** -/
theorem hasDirectory_of_prepareBuild (h : HasDirectory (prepareBuild c now dataDir id f).2 app) :
    HasDirectory f app ∨ id.app = app := by
  -- a directory that is new lies on the way to the build directory or to that of the logs
  have hkept : ∀ q, (prepareBuild c now dataDir id f).2.node? q = some .directory →
      f.node? q = some .directory ∨ ∃ rest, q <+: appDir id.app ++ rest := by
    rw [prepareBuild_eq]
    refine performIn_induction (I := fun f' => ∀ q, f'.node? q = some .directory →
      f.node? q = some .directory ∨ ∃ rest, q <+: appDir id.app ++ rest) (fun t ht f' hf' q hq => ?_) fun _ => .inl
    simp only [List.mem_cons, List.not_mem_nil, or_false] at ht
    rcases ht with rfl | rfl | rfl | rfl
    all_goals dsimp only at hq
    · exact hf' q (Files.directory_of_clear (p := buildDir id) hq)
    · rcases Files.directory_of_createDirectory (isPlain_buildDir id) hq with hq | hway
      · exact hf' q hq
      · exact .inr ⟨_, hway⟩
    · rcases Files.directory_of_createDirectory (isPlain_logsDir id.app) hq with hq | hway
      · exact hf' q hq
      · exact .inr ⟨_, hway⟩
    · exact hf' q (((writes_touch (logPath id) f').directory_iff q).mp hq)
  obtain ⟨q, hbelow, hq⟩ := h
  rcases hkept q hq with hthere | ⟨rest, hway⟩
  · exact .inl ⟨q, hbelow, hthere⟩
  · exact .inr (app_eq_of_way hbelow hway).symm

theorem isTree_cleanup (h : f.IsTree) : (cleanup c now dataDir app f).2.IsTree := by
  refine performIn_induction (I := Files.IsTree) (fun t ht f hf => ?_) h
  obtain rfl := List.mem_singleton.mp ht
  exact hf.clear (appDir app)

theorem hasDirectory_of_cleanup (h : HasDirectory (cleanup c now dataDir app' f).2 app) : HasDirectory f app := by
  refine performIn_induction (I := fun f' => HasDirectory f' app → HasDirectory f app) (fun t ht f' hf' h => ?_)
    (fun h => h) h
  obtain rfl := List.mem_singleton.mp ht
  obtain ⟨q, hbelow, hq⟩ := h
  exact hf' ⟨q, hbelow, Files.directory_of_clear (p := appDir app') hq⟩

theorem cleanup_eq_ok : cleanup c now dataDir app f = (.ok (), f') ↔
    c.stop? now = none ∧ clear (appDir app) f = (.ok (), f') := by
  rw [cleanup, performIn_eq_ok, perform_cons_eq_ok]
  simp [perform]

/-- **After a cleanup that succeeds nothing of the app is there.** -/
theorem node?_of_cleanup (h : f.IsTree) (hcleanup : cleanup c now dataDir app f = (.ok (), f')) {q : Path}
    (hbelow : appDir app <+: q) : f'.node? q = none :=
  h.node?_of_clear (isPlain_appDir app) (List.cons_ne_nil _ _) (cleanup_eq_ok.mp hcleanup).2 hbelow

/-- **A cleanup that succeeds leaves no directory of its app.** -/
theorem not_hasDirectory_of_cleanup (h : f.IsTree) (hcleanup : cleanup c now dataDir app f = (.ok (), f')) :
    ¬HasDirectory f' app := by
  rintro ⟨q, hbelow, hq⟩
  cases (node?_of_cleanup h hcleanup hbelow).symm.trans hq

/-- A cleanup leaves alone what is not of its app, also if it fails. -/
theorem node?_cleanup_of_not_prefix {q : Path} (hapart : ¬appDir app <+: q) :
    (cleanup c now dataDir app f).2.node? q = f.node? q := by
  have hkept (f' : Files) : (clear (appDir app) f').2.node? q = f'.node? q :=
    Files.node?_of_clear_of_not_prefix (isPlain_appDir app) hapart
  refine performIn_induction (I := fun f' => f'.node? q = f.node? q) (fun t ht f' hf' => ?_) rfl
  obtain rfl := List.mem_singleton.mp ht
  exact (hkept f').trans hf'

/-- Nothing of an app is of another one. -/
theorem not_prefix_of_ne (hne : app' ≠ app) {q : Path} (hq : appDir app' <+: q) : ¬appDir app <+: q := by
  intro hbelow
  obtain ⟨rest, rfl⟩ := hq
  exact hne (app_eq_of_way hbelow (List.prefix_refl _)).symm

end Artifacts

/-! ## Runners -/

namespace LogSink

variable (l : LogSink) (f : Files) (text : String)

theorem writes_emit : f.Writes (l.emit text f) := by
  unfold emit
  cases h : f.append l.path text with
  | error e => exact .refl f
  | ok f' => exact .of_append h

theorem writes_put : f.Writes (l.put text f).2 := by
  have hflushed : f.Writes
      (if l.buffered.utf8ByteSize + text.utf8ByteSize > capacity then l.flush f else (l, f)).2 := by
    split
    · exact l.writes_emit f l.buffered
    · exact .refl f
  unfold put
  dsimp only
  split
  · exact hflushed.trans (writes_emit _ _ text)
  · exact hflushed

theorem writes_writeLine : f.Writes (l.writeLine text f).2 :=
  (l.writes_put f text).trans (writes_put _ _ "\n")

theorem writes_close : f.Writes (l.close f) := l.writes_emit f l.buffered

end LogSink

namespace Build

theorem writes_writeLine (b : Build) (line : String) : b.files.Writes (b.writeLine line).files :=
  b.sink.writes_writeLine b.files line

theorem writes_close (b : Build) (result : Except Failure Unit) : b.files.Writes (b.close result).files :=
  (b.writes_writeLine _).trans (LogSink.writes_close _ _)

theorem writes_perform (holds : Bool) (dir : Path) (actions : List RunnerAction) (b : Build) :
    b.files.Writes (b.perform holds dir actions).2.files := by
  induction actions generalizing b with
  | nil => exact .refl _
  | cons action rest ih =>
    cases action with
    | log line => exact (b.writes_writeLine line).trans (ih _)
    | file name =>
      rw [perform]
      split
      · next files h => exact (Files.Writes.of_write h).trans (ih { b with files })
      · exact .refl _
    | fail failure => exact .refl _
    | check =>
      rw [perform]
      split
      · exact .refl _
      · exact ih b
    | cancel =>
      rw [perform]
      split
      · exact ih { b with context := b.context.cancelAt b.now }
      · exact ih b
    | elapse d => exact ih { b with next := Instant.after b.next d }
    | hang =>
      rw [perform]
      split <;> exact .refl _

/-- **A runner writes to files, and so does its log.** -/
theorem writes_runAndClose (holds : Bool) (call : RunnerCall) (actions : List RunnerAction) (b : Build) :
    b.files.Writes (b.runAndClose holds call actions).2.files := by
  have hperform := b.writes_perform holds call.buildDir actions
  unfold runAndClose
  rcases h : b.perform holds call.buildDir actions with ⟨_ | _ | _, b'⟩
  · rw [h] at hperform
    dsimp only
    split <;> exact hperform.trans (b'.writes_close _)
  · rw [h] at hperform
    exact hperform
  · rw [h] at hperform
    exact hperform

end Build

end Rollout
