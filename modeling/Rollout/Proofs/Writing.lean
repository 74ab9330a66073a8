import Mathlib.Data.List.TakeWhile
import Rollout.Proofs.Artifacts

/-!
# Where files are written

A path leads to the place that its parts name (`Path.resolved`), if it leads anywhere. What can be written to stays so
when other files are written, and its text as well (`Files.writable_put`). A build directory is made beside the log of
its deployment, which then can be written to and still has its text (`Artifacts.writable_of_prepareBuild`).
-/

namespace Rollout

/-! ## Places -/

namespace Path

variable {p q : Path}

/-- The place after one part of a way, if the way goes on. -/
def enter (dir : Path) (part : String) : Path :=
  if isStay part then dir else if part = ".." then dir.dropLast else dir ++ [part]

/-- The place that a path leads to, if it leads anywhere. -/
def resolved (p : Path) : Path := p.foldl enter []

theorem resolved_append (p q : Path) : resolved (p ++ q) = q.foldl enter p.resolved := List.foldl_append

theorem foldl_enter_of_isPlain (h : p.IsPlain) (dir : Path) : p.foldl enter dir = dir ++ p := by
  induction p generalizing dir with
  | nil => simp
  | cons part p ih =>
    obtain ⟨⟨hstay, hup⟩, hrest⟩ := List.forall_mem_cons.mp h
    rw [List.foldl_cons, enter, if_neg (by rw [hstay]; decide), if_neg hup, ih hrest, List.append_assoc,
      List.singleton_append]

/-- A path of names leads to the place of these names. -/
theorem IsPlain.resolved_eq (h : p.IsPlain) : p.resolved = p := foldl_enter_of_isPlain h []

theorem foldl_enter_of_isStay (h : ∀ part ∈ p, isStay part = true) (dir : Path) : p.foldl enter dir = dir := by
  induction p with
  | nil => rfl
  | cons part p ih =>
    obtain ⟨hstay, hrest⟩ := List.forall_mem_cons.mp h
    rw [List.foldl_cons, enter, if_pos hstay, ih hrest]

/-- Slashes at the end do not count. -/
theorem resolved_withoutSlash (p : Path) : p.withoutSlash.resolved = p.resolved := by
  have hsplit : p = p.withoutSlash ++ (p.reverse.takeWhile (· = "")).reverse := by
    rw [withoutSlash, ← List.reverse_append, List.takeWhile_append_dropWhile, List.reverse_reverse]
  have hstays : ∀ part ∈ (p.reverse.takeWhile (· = "")).reverse, isStay part = true := by
    intro part hpart
    have hempty : part = "" := by
      simpa using List.mem_takeWhile_imp (List.mem_reverse.mp hpart)
    simp [isStay, hempty]
  conv_rhs => rw [hsplit]
  rw [resolved_append, foldl_enter_of_isStay hstays]

theorem ne_of_getLast?_withoutSlash {name : String} (h : p.withoutSlash.getLast? = some name) : name ≠ "" := by
  rw [withoutSlash, List.getLast?_reverse] at h
  rintro rfl
  have hnot := List.head?_dropWhile_not (fun part : String => decide (part = "")) p.reverse
  rw [h] at hnot
  simp at hnot

end Path

namespace Files

variable {f f' : Files} {p p' place place' dir dir' q : Path} {old old' text : String}

theorem enter_eq_path {part : String} (h : f.enter dir part = .ok dir') : dir' = Path.enter dir part := by
  by_cases hstay : Path.isStay part = true
  · rw [enter, if_pos hstay] at h
    rw [Path.enter, if_pos hstay, Except.ok.inj h]
  · by_cases hup : part = ".."
    · rw [enter, if_neg hstay, if_pos hup] at h
      rw [Path.enter, if_neg hstay, if_pos hup, Except.ok.inj h]
    · rw [Path.enter, if_neg hstay, if_neg hup]
      exact ((enter_eq_ok_iff (Bool.eq_false_iff.mpr hstay) hup).mp h).2.1

theorem foldlM_enter_eq_path (h : p.foldlM f.enter dir = .ok dir') : dir' = p.foldl Path.enter dir := by
  induction p generalizing dir with
  | nil => exact (Except.ok.inj h).symm
  | cons part p ih =>
    rw [List.foldlM_cons] at h
    obtain ⟨next, hnext, hway⟩ := bind_eq_ok.mp h
    rw [List.foldl_cons, ← enter_eq_path hnext]
    exact ih hway

theorem walk_eq_resolved (h : f.walk p = .ok dir) : dir = p.resolved := by
  obtain ⟨-, -, hway⟩ := bind_eq_ok.mp h
  exact foldlM_enter_eq_path hway

/-- A file that can be written to is at the place that its path leads to. -/
theorem place_of_writable (h : f.writable p = .ok (place, text)) : place = p.resolved := by
  obtain ⟨dir, name, hgoal, rfl, -⟩ := writable_eq_ok_iff.mp h
  obtain ⟨hname, hdot, hup, hwalk⟩ := goal_eq_entry hgoal
  have hnamed : Path.isStay name = false := by
    simp [Path.isStay, Path.ne_of_getLast?_withoutSlash hname, hdot]
  have hsplit : p.withoutSlash = p.withoutSlash.dropLast ++ [name] :=
    (List.dropLast_append_getLast? name hname).symm
  rw [← p.resolved_withoutSlash, hsplit, Path.resolved_append, ← walk_eq_resolved hwalk, List.foldl_cons,
    List.foldl_nil, Path.enter, if_neg (by rw [hnamed]; decide), if_neg hup]

/-! ## Writing beside -/

section Directories

variable (hsame : ∀ q, f.node? q = some .directory → f'.node? q = some .directory)

include hsame

theorem enter_of_directories {part : String} (h : f.enter dir part = .ok dir') : f'.enter dir part = .ok dir' := by
  by_cases hstay : Path.isStay part = true
  · rw [enter, if_pos hstay] at h ⊢
    exact h
  · by_cases hup : part = ".."
    · rw [enter, if_neg hstay, if_pos hup] at h ⊢
      exact h
    · have hstay : Path.isStay part = false := Bool.eq_false_iff.mpr hstay
      obtain ⟨hshort, hdir, hthere⟩ := (enter_eq_ok_iff hstay hup).mp h
      exact (enter_eq_ok_iff hstay hup).mpr ⟨hshort, hdir, hsame _ hthere⟩

/-- A way stays open as long as its directories are there. -/
theorem walk_of_directories (h : f.walk p = .ok dir) : f'.walk p = .ok dir := by
  obtain ⟨_, hcheck, hway⟩ := bind_eq_ok.mp h
  have hway' : ∀ start, p.foldlM f.enter start = .ok dir → p.foldlM f'.enter start = .ok dir := by
    clear hcheck h hway
    induction p with
    | nil => exact fun _ h => h
    | cons part p ih =>
      intro start h
      rw [List.foldlM_cons] at h ⊢
      obtain ⟨next, hnext, hway⟩ := bind_eq_ok.mp h
      rw [enter_of_directories hsame hnext]
      exact ih next hway
  exact bind_eq_ok.mpr ⟨_, hcheck, hway' [] hway⟩

theorem goal_of_directories {name : String} {slashed : Bool} (h : f.goal p = .ok (.entry dir name slashed)) :
    f'.goal p = .ok (.entry dir name slashed) := by
  obtain ⟨_, hcheck, hgoal⟩ := bind_eq_ok.mp h
  obtain ⟨dir', hwalk, hgoal⟩ := bind_eq_ok.mp hgoal
  exact bind_eq_ok.mpr ⟨_, hcheck, bind_eq_ok.mpr ⟨dir', walk_of_directories hsame hwalk, hgoal⟩⟩

end Directories

/-- **What can be written to stays so when a file is written**, and keeps its text if the file is another one. -/
theorem writable_put (h : f.writable p = .ok (place, old)) (h' : f.writable p' = .ok (place', old')) (text : String) :
    (f.put place' (.file text)).writable p = .ok (place, if place = place' then text else old) := by
  have hwrites : f.Writes (f.put place' (.file text)) := .put h' (.refl _)
  obtain ⟨dir, name, hgoal, rfl, hshort, hnode⟩ := writable_eq_ok_iff.mp h
  obtain ⟨dir', name', -, rfl, -⟩ := writable_eq_ok_iff.mp h'
  have hput := node?_put (f := f) (List.append_ne_nil_of_right_ne_nil dir' (List.cons_ne_nil name' [])) (.file text)
  refine writable_eq_ok_iff.mpr
    ⟨dir, name, goal_of_directories (fun q => (hwrites.directory_iff q).mpr) hgoal, rfl, hshort, ?_⟩
  rw [hput]
  split
  · exact .inl rfl
  · exact hnode

/-- What is added to a file is behind its text. -/
theorem append_of_writable (h : f.writable p = .ok (place, old)) (text : String) :
    ∃ f', f.append p text = .ok f' ∧ f'.writable p = .ok (place, old ++ text) := by
  refine ⟨f.put place (.file (old ++ text)), ?_, ?_⟩
  · rw [append, h]
    rfl
  · rw [writable_put h h, if_pos rfl]

/-- A file keeps its text when another one is written. -/
theorem writable_of_write (h : f.writable p = .ok (place, old)) (hwrite : f.write p' text = .ok f')
    (hapart : p'.resolved ≠ place) : f'.writable p = .ok (place, old) := by
  obtain ⟨⟨place', old'⟩, h', rfl⟩ := map_eq_ok.mp hwrite
  have hne : place ≠ place' := fun heq => hapart ((place_of_writable h').symm.trans heq.symm)
  have hput := writable_put h h' text
  rwa [if_neg hne] at hput

/-! ## Logs -/

/-- The text of the file at a place, which is empty if there is none. -/
def textAt (f : Files) (place : Path) : String :=
  match f.node? place with
  | some (.file text) => text
  | _ => ""

theorem textAt_of_writable (h : f.writable p = .ok (place, text)) : f.textAt place = text := by
  obtain ⟨dir, name, -, -, -, hnode | ⟨hnode, rfl⟩⟩ := writable_eq_ok_iff.mp h
  · simp only [textAt, hnode]
  · simp only [textAt, hnode]

theorem textAt_congr (h : f'.node? place = f.node? place) : f'.textAt place = f.textAt place := by
  rw [textAt, textAt, h]

end Files

namespace Artifacts

variable {f f' : Files} {id : DeploymentId} {c : Context} {now : Instant} {dataDir : String} {ts : List Task}

section Ways

variable (id : DeploymentId)

theorem logPath_eq : logPath id = appDir id.app ++ ["logs", toString id.number ++ ".log"] := by simp [logPath, logsDir]

theorem not_buildDir_prefix_logPath : ¬buildDir id <+: logPath id := by
  rw [logPath_eq, buildDir, List.prefix_append_right_inj, List.cons_prefix_cons]
  exact fun h => absurd h.1 (by decide)

theorem not_logPath_prefix_buildDir : ¬logPath id <+: buildDir id := by
  rw [logPath_eq, buildDir, List.prefix_append_right_inj, List.cons_prefix_cons]
  exact fun h => absurd h.1 (by decide)

theorem not_logPath_prefix_logsDir : ¬logPath id <+: logsDir id.app := fun h => by
  have hlength := h.length_le
  rw [logPath, List.length_append] at hlength
  exact Nat.not_succ_le_self _ hlength

end Ways

/-- **A log can be written to once its build directory has been made**, and still has its text. -/
theorem writable_of_prepareBuild (h : prepareBuild c now dataDir id f = (.ok (), f')) :
    f'.writable (logPath id) = .ok (logPath id, f.textAt (logPath id)) := by
  simp only [prepareBuild_eq, performIn_eq_ok, perform_cons_eq_ok] at h
  obtain ⟨-, f₁, hclear, f₂, hbuild, f₃, hlogs, f₄, htouch, h⟩ := h
  obtain rfl : f₄ = f' := congrArg Prod.snd h
  -- until it is opened the log is not touched
  have hcleared := Files.node?_of_clear_of_not_prefix (f := f) (isPlain_buildDir id) (not_buildDir_prefix_logPath id)
  have hmade := Files.node?_createDirectory (f := f₁) (isPlain_buildDir id) (not_logPath_prefix_buildDir id)
  have hready := Files.node?_createDirectory (f := f₂) (isPlain_logsDir id.app) (not_logPath_prefix_logsDir id)
  rw [hclear] at hcleared
  rw [hbuild] at hmade
  rw [hlogs] at hready
  have hkept : f₃.node? (logPath id) = f.node? (logPath id) := hready.trans (hmade.trans hcleared)
  have hopened : f₃.append (logPath id) "" = .ok f₄ := by
    unfold touch at htouch
    split at htouch
    · next f₅ hopened =>
      cases htouch
      exact hopened
    · cases htouch
  obtain ⟨⟨place, text⟩, hwritable, -⟩ := map_eq_ok.mp hopened
  obtain ⟨f₅, hopened', hafter⟩ := Files.append_of_writable hwritable ""
  obtain rfl : f₄ = f₅ := Except.ok.inj (hopened.symm.trans hopened')
  have hplace : place = logPath id := (Files.place_of_writable hwritable).trans (isPlain_logPath id).resolved_eq
  have htext : text = f.textAt (logPath id) := by
    rw [← Files.textAt_congr hkept, ← hplace, Files.textAt_of_writable hwritable]
  rw [hafter, hplace, htext, String.append_empty]

end Artifacts

end Rollout
