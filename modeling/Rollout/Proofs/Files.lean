import Rollout.Artifacts
import Rollout.Proofs.Results

/-!
# Directories in trees of files

In a tree whatever is there lies in a directory (`Files.IsTree`), and so do all operations leave it. Directories come
only from `Files.createDirectory`, and if no part of the path stays or goes up, then only on the way along the path
(`Files.directory_of_createDirectory`). What is written to files leaves the directories as they are
(`Files.Writes.directory_iff`), and where a directory has been removed nothing is left (`Files.IsTree.node?_of_clear`).
-/

namespace Rollout

/-- The path has only names in it. -/
def Path.IsPlain (p : Path) : Prop := ∀ part ∈ p, Path.isStay part = false ∧ part ≠ ".."

namespace Files

variable {f f' : Files} {place dir dir' p q : Path} {n : FileNode}

/-! ## Nodes -/

theorem node?_put (hplace : place ≠ []) (n : FileNode) (q : Path) :
    (f.put place n).node? q = if q = place then some n else f.node? q := by
  by_cases hroot : q = []
  · rw [if_neg (hroot ▸ hplace.symm), node?, if_pos hroot, node?, if_pos hroot]
  · rw [node?, if_neg hroot, node?, if_neg hroot, put, List.find?_append, List.find?_filter]
    by_cases hq : q = place
    · have hnone :
          f.entries.find? (fun e => decide (decide (e.1 ≠ place) = true ∧ decide (e.1 = q) = true)) = none := by
        refine List.find?_eq_none.mpr fun e _ he => ?_
        simp only [decide_eq_true_eq] at he
        exact he.1 (he.2.trans hq)
      rw [if_pos hq, hnone]
      simp [hq]
    · have hsame : (fun e : Path × FileNode => decide (decide (e.1 ≠ place) = true ∧ decide (e.1 = q) = true)) =
          fun e => decide (e.1 = q) := by
        funext e
        by_cases he : e.1 = q <;> simp [he, hq]
      rw [if_neg hq, hsame]
      simp [Ne.symm hq]

theorem node?_prune (place q : Path) :
    (f.prune place).node? q = if q ≠ [] ∧ place <+: q then none else f.node? q := by
  by_cases hroot : q = []
  · rw [if_neg fun h => h.1 hroot, node?, if_pos hroot, node?, if_pos hroot]
  · rw [node?, if_neg hroot, node?, if_neg hroot, prune, List.find?_filter]
    by_cases hbelow : place <+: q
    · rw [if_pos ⟨hroot, hbelow⟩]
      refine Option.map_eq_none_iff.mpr (List.find?_eq_none.mpr fun e _ he => ?_)
      simp only [Bool.not_eq_true', decide_eq_true_eq] at he
      obtain ⟨hnot, rfl⟩ := he
      cases hnot.symm.trans (List.isPrefixOf_iff_prefix.mpr hbelow)
    · have hnot : place.isPrefixOf q = false :=
        Bool.eq_false_iff.mpr fun h => hbelow (List.isPrefixOf_iff_prefix.mp h)
      have hsame : (fun e : Path × FileNode => decide ((!place.isPrefixOf e.1) = true ∧ decide (e.1 = q) = true)) =
          fun e => decide (e.1 = q) := by
        funext e
        by_cases he : e.1 = q
        · simp [he, hnot]
        · simp [he]
      rw [if_neg fun h => hbelow h.2, hsame]

/-! ## Trees -/

/-- Whatever is there lies in a directory. -/
def IsTree (f : Files) : Prop := ∀ dir name, (f.node? (dir ++ [name])).isSome = true → f.node? dir = some .directory

theorem isTree_empty : empty.IsTree := by
  intro dir name h
  simp [node?, empty] at h

namespace IsTree

/-- What is above something that is there is a directory. -/
theorem directory_of_append (h : f.IsTree) {rest : Path} (hrest : rest ≠ [])
    (hq : (f.node? (dir ++ rest)).isSome = true) : f.node? dir = some .directory := by
  induction rest generalizing dir with
  | nil => exact absurd rfl hrest
  | cons name rest ih =>
    rw [← List.singleton_append, ← List.append_assoc] at hq
    by_cases hnil : rest = []
    · subst hnil
      rw [List.append_nil] at hq
      exact h dir name hq
    · exact h dir name (by rw [ih hnil hq]; rfl)

theorem directory_dropLast (h : f.IsTree) (hdir : f.node? dir = some .directory) :
    f.node? dir.dropLast = some .directory := by
  by_cases hnil : dir = []
  · rw [hnil]
    rfl
  · refine h dir.dropLast (dir.getLast hnil) ?_
    rw [List.dropLast_append_getLast, hdir]
    rfl

/-- Nothing is below what is not there. -/
theorem node?_eq_none (h : f.IsTree) (hnone : f.node? place = none) (hbelow : place <+: q) : f.node? q = none := by
  obtain ⟨rest, rfl⟩ := hbelow
  by_cases hrest : rest = []
  · rw [hrest, List.append_nil, hnone]
  · refine Option.not_isSome_iff_eq_none.mp fun hsome => ?_
    cases hnone.symm.trans (h.directory_of_append hrest hsome)

/-- Something is put into a directory, and does not stand in place of one. -/
theorem put (h : f.IsTree) {name : String} (hdir : f.node? dir = some .directory)
    (hplace : f.node? (dir ++ [name]) ≠ some .directory) : (f.put (dir ++ [name]) n).IsTree := by
  have hput := node?_put (f := f) (List.append_ne_nil_of_right_ne_nil dir (List.cons_ne_nil name [])) n
  have hkept (q : Path) (hq : f.node? q = some .directory) :
      (f.put (dir ++ [name]) n).node? q = some .directory := by
    rw [hput, if_neg, hq]
    rintro rfl
    exact hplace hq
  intro dir' name' hsome
  rw [hput] at hsome
  split at hsome
  · next heq =>
    obtain ⟨rfl, -⟩ := List.append_inj' heq rfl
    exact hkept _ hdir
  · exact hkept _ (h dir' name' hsome)

theorem prune (h : f.IsTree) (place : Path) : (f.prune place).IsTree := by
  intro dir name hsome
  rw [node?_prune] at hsome
  split at hsome
  · cases hsome
  · next hnot =>
    have happend : dir ++ [name] ≠ [] := List.append_ne_nil_of_right_ne_nil dir (List.cons_ne_nil name [])
    have hapart : ¬place <+: dir := fun hbelow => hnot ⟨happend, hbelow.trans (List.prefix_append dir [name])⟩
    rw [node?_prune, if_neg fun hpruned => hapart hpruned.2]
    exact h dir name hsome

end IsTree

/-! ## Ways -/

theorem find_eq_ok {name : String} {x : Option FileNode} (h : f.find dir name = .ok x) :
    f.node? (dir ++ [name]) = x := by
  unfold find at h
  split at h
  · cases h
  · exact Except.ok.inj h

theorem enter_eq_ok {part : String} (h : f.enter dir part = .ok dir') :
    dir' = dir ∨ dir' = dir.dropLast ∨ dir' = dir ++ [part] ∧ f.node? dir' = some .directory := by
  unfold enter at h
  split at h
  · exact .inl (Except.ok.inj h).symm
  · split at h
    · exact .inr (.inl (Except.ok.inj h).symm)
    · obtain ⟨x, hx, h⟩ := bind_eq_ok.mp h
      split at h
      · cases h
        exact .inr (.inr ⟨rfl, find_eq_ok hx⟩)
      · cases h
      · cases h

theorem IsTree.enter (h : f.IsTree) {part : String} (hdir : f.node? dir = some .directory)
    (henter : f.enter dir part = .ok dir') : f.node? dir' = some .directory := by
  rcases enter_eq_ok henter with rfl | rfl | ⟨-, hthere⟩
  · exact hdir
  · exact h.directory_dropLast hdir
  · exact hthere

theorem IsTree.foldlM_enter (h : f.IsTree) (hstart : f.node? dir = some .directory)
    (hway : p.foldlM f.enter dir = .ok dir') : f.node? dir' = some .directory := by
  induction p generalizing dir with
  | nil =>
    cases hway
    exact hstart
  | cons part p ih =>
    rw [List.foldlM_cons] at hway
    obtain ⟨next, hnext, hway⟩ := bind_eq_ok.mp hway
    exact ih (h.enter hstart hnext) hway

/-- A way leads to a directory. -/
theorem IsTree.walk (h : f.IsTree) (hwalk : f.walk p = .ok dir) : f.node? dir = some .directory := by
  obtain ⟨-, -, hway⟩ := bind_eq_ok.mp hwalk
  exact h.foldlM_enter rfl hway

/-- A name leads to the directory that has it. -/
theorem enter_eq {part : String} (hstay : Path.isStay part = false) (hup : part ≠ "..") :
    f.enter dir part = if part.utf8ByteSize > Path.nameLimit then .error .nameTooLong
      else match f.node? (dir ++ [part]) with
        | some .directory => .ok (dir ++ [part])
        | some (.file _) => .error .notADirectory
        | none => .error .notFound := by
  rw [enter, if_neg (by rw [hstay]; decide), if_neg hup, find]
  split
  · rfl
  · rcases f.node? (dir ++ [part]) with _ | _ | _ <;> rfl

theorem enter_eq_ok_iff {part : String} (hstay : Path.isStay part = false) (hup : part ≠ "..") :
    f.enter dir part = .ok dir' ↔
      part.utf8ByteSize ≤ Path.nameLimit ∧ dir' = dir ++ [part] ∧ f.node? (dir ++ [part]) = some .directory := by
  rw [enter_eq hstay hup]
  split
  · next hlong => simp [Nat.not_le.mpr hlong]
  · next hshort =>
    rcases f.node? (dir ++ [part]) with _ | _ | _ <;> simp [Nat.not_lt.mp hshort, eq_comm]

/-- A name leads to what has it, or to nothing. -/
theorem enter_of_name {part : String} (hstay : Path.isStay part = false) (hup : part ≠ "..") :
    (∀ dir', f.enter dir part = .ok dir' → dir' = dir ++ [part]) ∧
      (f.enter dir part = .error .notFound → f.node? (dir ++ [part]) = none) := by
  refine ⟨fun dir' h => ((enter_eq_ok_iff hstay hup).mp h).2.1, fun h => ?_⟩
  rw [enter_eq hstay hup] at h
  split at h
  · cases h
  · split at h
    · cases h
    · cases h
    · next hnone => exact hnone

/-- A way of names leads to the place that they name, unless something on it is not there. -/
theorem foldlM_enter_of_isPlain (hp : p.IsPlain) (dir : Path) :
    (∀ dir', p.foldlM f.enter dir = .ok dir' → dir' = dir ++ p) ∧
      (p.foldlM f.enter dir = .error .notFound → ∃ q, q <+: p ∧ f.node? (dir ++ q) = none) := by
  induction p generalizing dir with
  | nil =>
    refine ⟨fun dir' h => ?_, fun h => ?_⟩
    · cases h
      exact (List.append_nil _).symm
    · cases h
  | cons part p ih =>
    obtain ⟨⟨hstay, hup⟩, hrest⟩ := List.forall_mem_cons.mp hp
    obtain ⟨hnamed, hmissing⟩ := @enter_of_name f dir part hstay hup
    rw [List.foldlM_cons]
    cases henter : f.enter dir part with
    | error e =>
      refine ⟨fun dir' h => (by cases h), fun h => ?_⟩
      cases h
      exact ⟨[part], List.prefix_append [part] p, hmissing henter⟩
    | ok next =>
      obtain rfl := hnamed next henter
      obtain ⟨hdir, hnone⟩ := ih hrest (dir ++ [part])
      rw [List.append_assoc, List.singleton_append] at hdir
      refine ⟨hdir, fun h => ?_⟩
      obtain ⟨q, hq, hmissing⟩ := hnone h
      rw [List.append_assoc, List.singleton_append] at hmissing
      exact ⟨part :: q, List.cons_prefix_cons.mpr ⟨rfl, hq⟩, hmissing⟩

/-- A path of names leads to its own place, unless something on it is not there. -/
theorem walk_of_isPlain (hp : p.IsPlain) :
    (∀ dir, f.walk p = .ok dir → dir = p) ∧
      (f.walk p = .error .notFound → ∃ q, q <+: p ∧ f.node? q = none) := by
  obtain ⟨hnamed, hmissing⟩ := foldlM_enter_of_isPlain (f := f) hp []
  refine ⟨fun dir h => ?_, fun h => hmissing ?_⟩
  · obtain ⟨-, -, hway⟩ := bind_eq_ok.mp h
    exact hnamed dir hway
  · unfold walk at h
    cases hcheck : p.check with
    | ok _ =>
      rw [hcheck] at h
      exact h
    | error e =>
      rw [hcheck] at h
      cases h
      unfold Path.check at hcheck
      repeat' split at hcheck
      all_goals cases hcheck

/-- **Where a directory has been removed nothing is left**, and neither if there was none. -/
theorem IsTree.node?_of_clear (h : f.IsTree) (hp : p.IsPlain) (hnil : p ≠ [])
    (hclear : Artifacts.clear p f = (.ok (), f')) (hbelow : p <+: q) : f'.node? q = none := by
  obtain ⟨hnamed, hmissing⟩ := walk_of_isPlain (f := f) hp
  unfold Artifacts.clear removeDirectory at hclear
  cases hwalk : f.walk p with
  | ok dir =>
    obtain rfl := hnamed dir hwalk
    rw [hwalk] at hclear
    cases hclear
    rw [node?_prune, if_pos ⟨fun heq => hnil (List.prefix_nil.mp (heq ▸ hbelow)), hbelow⟩]
  | error e =>
    rw [hwalk] at hclear
    cases e with
    | notFound =>
      cases hclear
      obtain ⟨place, hplace, hnone⟩ := hmissing hwalk
      exact h.node?_eq_none hnone (hplace.trans hbelow)
    | notADirectory | isADirectory | alreadyExists | nameTooLong | invalidPath => cases hclear

/-- Nothing is removed but what is at the place of the directory and below it. -/
theorem node?_of_clear_of_not_prefix (hp : p.IsPlain) (hapart : ¬p <+: q) :
    (Artifacts.clear p f).2.node? q = f.node? q := by
  unfold Artifacts.clear removeDirectory
  cases hwalk : f.walk p with
  | ok dir =>
    obtain rfl := (walk_of_isPlain hp).1 dir hwalk
    exact (node?_prune dir q).trans (if_neg fun h => hapart h.2)
  | error e => cases e <;> rfl

/-- Once the directory at the end of a way of names has been removed, the way ends before it. -/
theorem foldlM_enter_prune (hp : p.IsPlain) (hnil : p ≠ []) (hway : p.foldlM f.enter dir = .ok dir') :
    p.foldlM (f.prune (dir ++ p)).enter dir = .error .notFound := by
  induction p generalizing dir with
  | nil => exact absurd rfl hnil
  | cons part rest ih =>
    obtain ⟨⟨hstay, hup⟩, hrest⟩ := List.forall_mem_cons.mp hp
    rw [List.foldlM_cons] at hway ⊢
    obtain ⟨next, hnext, hway⟩ := bind_eq_ok.mp hway
    obtain ⟨hshort, rfl, hthere⟩ := (enter_eq_ok_iff hstay hup).mp hnext
    have hplace : dir ++ part :: rest = (dir ++ [part]) ++ rest := by simp
    have happend : dir ++ [part] ≠ [] := List.append_ne_nil_of_right_ne_nil dir (List.cons_ne_nil part [])
    rw [hplace]
    by_cases hend : rest = []
    · -- the last part of the way is the directory itself
      subst hend
      have hgone : (f.prune (dir ++ [part] ++ [])).node? (dir ++ [part]) = none := by
        rw [node?_prune, if_pos ⟨happend, by simp⟩]
      rw [enter_eq hstay hup, if_neg (Nat.not_lt.mpr hshort), hgone]
      rfl
    · have hbefore : ¬(dir ++ [part]) ++ rest <+: dir ++ [part] := fun h => by
        have hlength := h.length_le
        rw [List.length_append] at hlength
        exact hend (List.length_eq_zero_iff.mp (by omega))
      have hkept : (f.prune (dir ++ [part] ++ rest)).enter dir part = .ok (dir ++ [part]) :=
        (enter_eq_ok_iff hstay hup).mpr ⟨hshort, rfl, by rw [node?_prune, if_neg fun h => hbefore h.2, hthere]⟩
      rw [hkept]
      exact ih hrest hend hway

/-- A directory that has been removed can be removed again, which does nothing. -/
theorem clear_of_clear (hp : p.IsPlain) (hnil : p ≠ []) (hclear : Artifacts.clear p f = (.ok (), f')) :
    Artifacts.clear p f' = (.ok (), f') := by
  unfold Artifacts.clear removeDirectory at hclear ⊢
  cases hwalk : f.walk p with
  | ok dir =>
    obtain rfl := (walk_of_isPlain hp).1 dir hwalk
    rw [hwalk] at hclear
    obtain rfl : f.prune dir = f' := congrArg Prod.snd hclear
    obtain ⟨_, hcheck, hway⟩ := bind_eq_ok.mp hwalk
    have hended : dir.foldlM (f.prune dir).enter [] = .error .notFound := by
      simpa only [List.nil_append] using foldlM_enter_prune hp hnil hway
    have hgone : (f.prune dir).walk dir = .error .notFound := by
      rw [walk, hcheck]
      exact hended
    rw [hgone]
    rfl
  | error e =>
    rw [hwalk] at hclear
    cases e with
    | notFound =>
      cases hclear
      rw [hwalk]
      rfl
    | notADirectory | isADirectory | alreadyExists | nameTooLong | invalidPath => cases hclear

theorem IsTree.clear (h : f.IsTree) (p : Path) : (Artifacts.clear p f).2.IsTree := by
  unfold Artifacts.clear removeDirectory
  cases f.walk p with
  | ok dir => exact h.prune dir
  | error e => cases e <;> exact h

/-- A directory that is there after others were removed was there before. -/
theorem directory_of_clear (hq : (Artifacts.clear p f).2.node? q = some .directory) :
    f.node? q = some .directory := by
  unfold Artifacts.clear removeDirectory at hq
  cases hwalk : f.walk p with
  | ok dir =>
    rw [hwalk] at hq
    have hq : (f.prune dir).node? q = some .directory := hq
    rw [node?_prune] at hq
    split at hq
    · cases hq
    · exact hq
  | error e =>
    rw [hwalk] at hq
    cases e <;> exact hq

/-! ## Writing -/

/-- Files are written to, one after another. -/
inductive Writes : Files → Files → Prop where
  | refl (f : Files) : Writes f f
  | put {f f' : Files} {p place : Path} {old text : String} (hp : f.writable p = .ok (place, old))
      (h : Writes (f.put place (.file text)) f') : Writes f f'

theorem Writes.trans {f₁ : Files} (h : f.Writes f₁) (h' : f₁.Writes f') : f.Writes f' := by
  induction h with
  | refl => exact h'
  | put hp _ ih => exact .put hp (ih h')

theorem goal_eq_entry {name : String} {slashed : Bool} (h : f.goal p = .ok (.entry dir name slashed)) :
    p.withoutSlash.getLast? = some name ∧ name ≠ "." ∧ name ≠ ".." ∧ f.walk p.withoutSlash.dropLast = .ok dir := by
  obtain ⟨-, -, h⟩ := bind_eq_ok.mp h
  obtain ⟨dir', hwalk, h⟩ := bind_eq_ok.mp h
  split at h
  · cases h
  · next name' hname =>
    split at h
    · cases h
    · next hnamed =>
      cases h
      exact ⟨hname, fun hdot => hnamed (.inl hdot), fun hup => hnamed (.inr hup), hwalk⟩

/-- What can be written to is in the directory that its path leads to, and is no directory. -/
theorem writable_eq_ok_iff {text : String} : f.writable p = .ok (place, text) ↔
    ∃ dir name, f.goal p = .ok (.entry dir name false) ∧ place = dir ++ [name] ∧
      name.utf8ByteSize ≤ Path.nameLimit ∧
      (f.node? place = some (.file text) ∨ f.node? place = none ∧ text = "") := by
  constructor
  · intro h
    obtain ⟨goal, hgoal, h⟩ := bind_eq_ok.mp h
    cases goal with
    | itself => cases h
    | entry dir name slashed =>
      cases slashed with
      | true => cases h
      | false =>
        obtain ⟨-, -, h⟩ := bind_eq_ok.mp h
        obtain ⟨x, hfind, h⟩ := bind_eq_ok.mp h
        have hshort : name.utf8ByteSize ≤ Path.nameLimit := by
          unfold find at hfind
          split at hfind
          · cases hfind
          · next hshort => exact Nat.not_lt.mp hshort
        have hnode := find_eq_ok hfind
        split at h
        · cases h
        · cases h
          exact ⟨dir, name, hgoal, rfl, hshort, .inl hnode⟩
        · cases h
          exact ⟨dir, name, hgoal, rfl, hshort, .inr ⟨hnode, rfl⟩⟩
  · rintro ⟨dir, name, hgoal, rfl, hshort, hnode⟩
    have hfind : f.find dir name = .ok (f.node? (dir ++ [name])) := if_neg (Nat.not_lt.mpr hshort)
    rcases hnode with hnode | ⟨hnode, rfl⟩
    all_goals
      refine bind_eq_ok.mpr ⟨_, hgoal, bind_eq_ok.mpr ⟨_, hfind, ?_⟩⟩
      rw [hnode]
      rfl

/-- What is written to is no directory. -/
theorem writable_eq_ok {text : String} (h : f.writable p = .ok (place, text)) :
    ∃ dir name way, place = dir ++ [name] ∧ f.walk way = .ok dir ∧ f.node? place ≠ some .directory := by
  obtain ⟨dir, name, hgoal, rfl, -, hnode⟩ := writable_eq_ok_iff.mp h
  obtain ⟨-, -, -, hwalk⟩ := goal_eq_entry hgoal
  refine ⟨dir, name, _, rfl, hwalk, ?_⟩
  rcases hnode with hnode | ⟨hnode, -⟩ <;> simp [hnode]

/-- **Directories stay as they are when files are written.** -/
theorem Writes.directory_iff (h : f.Writes f') (q : Path) :
    f'.node? q = some .directory ↔ f.node? q = some .directory := by
  induction h with
  | refl => exact Iff.rfl
  | @put f f' p place old text hp _ ih =>
    obtain ⟨dir, name, way, rfl, -, hplace⟩ := writable_eq_ok hp
    rw [ih, node?_put (List.append_ne_nil_of_right_ne_nil dir (List.cons_ne_nil name []))]
    split
    · next heq =>
      rw [heq]
      exact ⟨fun h => (by cases h), fun h => absurd h hplace⟩
    · exact Iff.rfl

theorem Writes.of_writable {g : Path × String → String}
    (h : (f.writable p).map (fun x => f.put x.1 (.file (g x))) = .ok f') : f.Writes f' := by
  obtain ⟨x, hx, rfl⟩ := map_eq_ok.mp h
  exact .put hx (.refl _)

theorem Writes.of_append {text : String} (h : f.append p text = .ok f') : f.Writes f' :=
  .of_writable (g := fun x => x.2 ++ text) h

theorem Writes.of_write {text : String} (h : f.write p text = .ok f') : f.Writes f' :=
  .of_writable (g := fun _ => text) h

theorem IsTree.writes (h : f.IsTree) (hwrites : f.Writes f') : f'.IsTree := by
  induction hwrites with
  | refl => exact h
  | put hp _ ih =>
    obtain ⟨dir, name, way, rfl, hwalk, hplace⟩ := writable_eq_ok hp
    exact ih (h.put (h.walk hwalk) hplace)

/-! ## Creating directories -/

theorem IsTree.createFrom (h : f.IsTree) (hdir : f.node? dir = some .directory) (missing : Bool) :
    (f.createFrom missing dir p).2.IsTree := by
  induction p generalizing f dir missing with
  | nil => exact h
  | cons part p ih =>
    rw [Files.createFrom]
    split
    · exact ih h hdir missing
    · split
      · exact ih h (h.directory_dropLast hdir) missing
      · dsimp only
        split
        · exact h
        · next hfind => exact ih h (find_eq_ok hfind) missing
        · exact h
        · next hfind =>
          split
          · exact h
          · have hnone := find_eq_ok hfind
            refine ih (h.put hdir (by rw [hnone]; simp)) ?_ true
            rw [node?_put (List.append_ne_nil_of_right_ne_nil dir (List.cons_ne_nil part [])), if_pos rfl]

/-- Nothing is created but on the way along a path of names. -/
theorem node?_createFrom (hp : p.IsPlain) (missing : Bool) (hapart : ¬q <+: dir ++ p) :
    (f.createFrom missing dir p).2.node? q = f.node? q := by
  induction p generalizing f dir missing with
  | nil => rfl
  | cons part p ih =>
    obtain ⟨⟨hstay, hup⟩, hrest⟩ := List.forall_mem_cons.mp hp
    have hway : dir ++ part :: p = (dir ++ [part]) ++ p := by simp
    rw [hway] at hapart
    rw [createFrom, if_neg (by rw [hstay]; decide), if_neg hup]
    dsimp only
    split
    · rfl
    · exact ih hrest missing hapart
    · rfl
    · split
      · rfl
      · have hne : q ≠ dir ++ [part] := fun heq => hapart (heq ▸ List.prefix_append _ p)
        rw [ih hrest true hapart, node?_put (List.append_ne_nil_of_right_ne_nil dir (List.cons_ne_nil part [])),
          if_neg hne]

theorem IsTree.createDirectory (h : f.IsTree) (p : Path) : (f.createDirectory p).2.IsTree := by
  unfold Files.createDirectory
  split
  · exact h
  · exact h.createFrom rfl false

theorem node?_createDirectory (hp : p.IsPlain) (hapart : ¬q <+: p) :
    (f.createDirectory p).2.node? q = f.node? q := by
  unfold createDirectory
  split
  · rfl
  · exact node?_createFrom hp false hapart

/-- Directories are created only on the way along a path of names. -/
theorem directory_of_createDirectory (hp : p.IsPlain) (hq : (f.createDirectory p).2.node? q = some .directory) :
    f.node? q = some .directory ∨ q <+: p := by
  by_cases hway : q <+: p
  · exact .inr hway
  · exact .inl (node?_createDirectory hp hway ▸ hq)

end Files

end Rollout
