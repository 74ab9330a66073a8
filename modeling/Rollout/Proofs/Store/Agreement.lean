import Rollout.Proofs.Store.Kept
import Rollout.Proofs.Store.Write

/-!
# Aggregates and their rows

Someone holds an aggregate in memory, which was just made or was read from its row, lets operations work on it and
writes it as often as they like, also together with others. Writes may fail, and everything else may change meanwhile,
the row of the aggregate apart (`Move`).

At any time the aggregate is what its pending events make of what is stored of it, or of what it began with as long as
nothing is stored (`Held.Agrees`). A write that goes through is read back as the aggregate; a written deletion removes
the row (`Held.Consistent`). This holds of apps and of deployments (`aggregates_agree_with_rows`).
-/

namespace Rollout

open Kept Aggregate

/-- An aggregate in memory and the store that it is written to. -/
structure Held (A : Type) where
  aggregate : A
  store : Store
  /-- Whether a write of the aggregate has gone through, or it was read from its row. -/
  isStored : Bool
  /-- Whether a delete was accepted. -/
  isDeleted : Bool

inductive Move (A ω : Type) where
  | operate (o : ω)
  /-- A write of the aggregate between others. -/
  | write (before after : List A)
  | elsewhere (change : Store → Store)

/-- Whether what the move is given is read back as what it is once it is stored. -/
def Move.IsSound {A ε ω κ ρ : Type} [Kept A ε ω κ ρ] : Move A ω → Prop
  | .operate o => Sound A o
  | _ => True

namespace Held

variable {A ε ω κ ρ : Type} [Kept A ε ω κ ρ]

/-- An aggregate that was just made, or read from its row. -/
inductive Begins : Held A → Prop where
  | new {a : A} (s : Store) (h : IsNew a) : Begins ⟨a, s, false, false⟩
  | loaded {a : A} {s : Store} {k : κ} (h : load s.db.tables k = .ok a) : Begins ⟨a, s, true, false⟩

def write (h : Held A) (before after : List A) : Except StoreError Unit × List A × Store :=
  h.store.write (before ++ h.aggregate :: after)

/-- No event of the others is about the aggregate. -/
def isAlone [DecidableEq κ] (h : Held A) (before after : List A) : Bool :=
  (pendingEvents before ++ pendingEvents after).all (keyOf A · ≠ key h.aggregate)

section Moves

variable [DecidableEq κ] [DecidableEq ρ]

/-- What comes of a move. A refused operation changes nothing, and no one else changes the row of the aggregate. -/
def perform (h : Held A) : Move A ω → Held A
  | .operate o =>
    match Kept.perform h.aggregate o with
    | .error _ => h
    | .ok a => { h with aggregate := a, isDeleted := h.isDeleted || isDelete A o }
  | .write before after =>
    if h.isAlone before after then
      let (result, as, store) := h.write before after
      { h with aggregate := as[before.length]?.getD h.aggregate, store, isStored := h.isStored || wasStored result }
    else h
  | .elsewhere change =>
    if row? A (change h.store).db.tables (key h.aggregate) = row? A h.store.db.tables (key h.aggregate) then
      { h with store := change h.store }
    else h

def run (h : Held A) (ms : List (Move A ω)) : Held A := ms.foldl perform h

end Moves

/-- The pending events make the aggregate of what is stored of it, or of what it began with. -/
def Agrees (first : A) (h : Held A) : Prop :=
  if h.isStored then
    ∃ base, load h.store.db.tables (key h.aggregate) = .ok base ∧
      (pending h.aggregate).foldl change base = cleared h.aggregate
  else
    ∃ e es, pending h.aggregate = e :: es ∧ founded e = some (cleared first) ∧
      es.foldl change (cleared first) = cleared h.aggregate

/-- What holds of an aggregate that began as `first`, and of its writes. -/
structure Consistent [DecidableEq κ] (first : A) (h : Held A) : Prop where
  agrees : h.isDeleted = false → h.Agrees first
  /-- A write that goes through is read back as the aggregate. -/
  stored : ∀ before after, h.isAlone before after = true → wasStored (h.write before after).1 = true →
    (h.write before after).2.1[before.length]? = some (cleared h.aggregate) ∧
      load (h.write before after).2.2.db.tables (key h.aggregate) =
        if h.isDeleted then .error (.notFound (entity A)) else .ok (cleared h.aggregate)
  /-- Any other write does nothing. -/
  refused : ∀ before after, wasStored (h.write before after).1 = false →
    (h.write before after).2.1 = before ++ h.aggregate :: after ∧
      (h.write before after).2.2.db.tables = h.store.db.tables
  /-- Rows that no event is about stay as they are. -/
  others : ∀ before after,
    let isOther (r : ρ) := (pendingEvents (before ++ h.aggregate :: after)).all fun e => !isOf A r (keyOf A e)
    (rows A (h.write before after).2.2.db.tables).filter isOther = (rows A h.store.db.tables).filter isOther

/-! ## What every move keeps -/

/-- What holds of the pending events of an aggregate that began as `first`. -/
structure Tracks (first : A) (h : Held A) : Prop where
  keys : ∀ e ∈ pending h.aggregate, keyOf A e = key h.aggregate
  readable : ∀ e ∈ pending h.aggregate, Readable A e
  kept : h.isDeleted = false → ∀ e ∈ pending h.aggregate, deletes A e = false
  changes : h.isStored = true → ∀ e ∈ pending h.aggregate, founded (A := A) e = none
  begins : h.isStored = false → ∃ e es, pending h.aggregate = e :: es ∧ founded e = some (cleared first) ∧
    deletes A e = false ∧ ∀ e' ∈ es, founded (A := A) e' = none
  agrees : h.isDeleted = false → h.Agrees first
  deleted : h.isDeleted = true → (∃ e ∈ pending h.aggregate, deletes A e = true) ∨
    h.isStored = true ∧ row? A h.store.db.tables (key h.aggregate) = none

variable {first : A} {h : Held A} {before after : List A} {t t' : Tables}

/-- A write does nothing, or what its events do. -/
theorem write_cases (h : Held A) (before after : List A) :
    (wasStored (h.write before after).1 = false ∧ (h.write before after).2.1 = before ++ h.aggregate :: after ∧
      (h.write before after).2.2.db.tables = h.store.db.tables) ∨
    (wasStored (h.write before after).1 = true ∧
      (h.write before after).2.1[before.length]? = some (cleared h.aggregate) ∧
      (pendingEvents (before ++ h.aggregate :: after)).foldlM (Aggregate.apply A) h.store.db.tables =
        .ok (h.write before after).2.2.db.tables) := by
  rcases h.store.write_cases (before ++ h.aggregate :: after) with
    ⟨error, k, hwrite⟩ | ⟨result, tables, k, hub, happlied, hstored, hwrite⟩
  · rw [write, hwrite]
    exact .inl ⟨rfl, rfl, Database.tables_skip⟩
  · rw [write, hwrite]
    exact .inr ⟨hstored, by simp, happlied⟩

theorem Tracks.elsewhere {s : Store} (hh : h.Tracks first)
    (hrow : row? A s.db.tables (key h.aggregate) = row? A h.store.db.tables (key h.aggregate)) :
    Tracks first { h with store := s } := by
  refine { hh with agrees := fun hkept => ?_, deleted := fun hdeleted => ?_ }
  · have hagrees := hh.agrees hkept
    unfold Agrees at hagrees ⊢
    rwa [load_congr hrow]
  · rw [hrow]
    exact hh.deleted hdeleted

variable [LawfulKept A]

theorem tracks_of_begins (hbegins : h.Begins) : h.Tracks h.aggregate := by
  cases hbegins with
  | new s hnew =>
    obtain ⟨e, hpending, hkey, hfounded, hkept, hreadable⟩ := LawfulKept.founded_of_isNew hnew
    constructor
    all_goals simp [hpending, hkey, hfounded, hkept, hreadable, Agrees]
  | loaded hload =>
    obtain ⟨rfl, hpending, hcleared⟩ := LawfulKept.of_load hload
    constructor
    all_goals simp [hpending, hcleared, hload, Agrees]

/-- What the aggregate's own events do to its row. -/
theorem Tracks.own_written (hh : h.Tracks first)
    (hrow : row? A t (key h.aggregate) = row? A h.store.db.tables (key h.aggregate))
    (happlied : (pending h.aggregate).foldlM (Aggregate.apply A) t = .ok t') :
    (h.isDeleted = false → load t' (key h.aggregate) = .ok (cleared h.aggregate)) ∧
      (h.isDeleted = true → row? A t' (key h.aggregate) = none) := by
  cases hstored : h.isStored with
  | true =>
    refine ⟨fun hkept => ?_, fun hdeleted => ?_⟩
    · have hagrees := hh.agrees hkept
      rw [Agrees, if_pos hstored] at hagrees
      obtain ⟨base, hbase, hfold⟩ := hagrees
      rw [← load_congr hrow] at hbase
      rw [← hfold]
      exact load_of_changes hbase hh.keys (hh.changes hstored) (hh.kept hkept) hh.readable happlied
    · rcases hh.deleted hdeleted with hdeletes | ⟨-, hnone⟩
      · exact row?_of_deletes hdeletes hh.keys (hh.changes hstored) happlied
      · exact row?_of_none (hrow.trans hnone) hh.keys (hh.changes hstored) happlied
  | false =>
    obtain ⟨e, es, hpending, hfounded, hkeeps, hnew⟩ := hh.begins hstored
    have hkeys := hh.keys
    have hreadable := hh.readable
    rw [hpending, List.forall_mem_cons] at hkeys hreadable
    rw [hpending] at happlied
    obtain ⟨next, he, hes⟩ := Database.exists_of_foldlM_cons happlied
    have hnext := LawfulKept.load_of_founded hfounded he
    rw [hkeys.1] at hnext
    refine ⟨fun hkept => ?_, fun hdeleted => ?_⟩
    · have hagrees := hh.agrees hkept
      have hkept := hh.kept hkept
      simp only [Agrees, hstored, hpending] at hagrees
      obtain ⟨_, _, ⟨rfl, rfl⟩, -, hfold⟩ := hagrees
      rw [hpending, List.forall_mem_cons] at hkept
      rw [← hfold]
      exact load_of_changes hnext hkeys.2 hnew hkept.2 hreadable.2 hes
    · rcases hh.deleted hdeleted with ⟨e', he', hdeletes⟩ | ⟨hstored', -⟩
      · rw [hpending] at he'
        have hmem : e' ∈ es := by
          rcases List.mem_cons.mp he' with rfl | hmem
          · simp [hkeeps] at hdeletes
          · exact hmem
        exact row?_of_deletes ⟨e', hmem, hdeletes⟩ hkeys.2 hnew hes
      · simp [hstored] at hstored'

/-- What a write that goes through does to the row of the aggregate. -/
theorem Tracks.written [DecidableEq κ] (hh : h.Tracks first) (halone : h.isAlone before after = true)
    (happlied : (pendingEvents (before ++ h.aggregate :: after)).foldlM (Aggregate.apply A) h.store.db.tables =
      .ok t') :
    (h.isDeleted = false → load t' (key h.aggregate) = .ok (cleared h.aggregate)) ∧
      (h.isDeleted = true → row? A t' (key h.aggregate) = none) := by
  obtain ⟨hbefore, hafter⟩ : (∀ e ∈ pendingEvents before, keyOf A e ≠ key h.aggregate) ∧
      ∀ e ∈ pendingEvents after, keyOf A e ≠ key h.aggregate := by simpa [isAlone] using halone
  have hsplit : pendingEvents (before ++ h.aggregate :: after) =
      pendingEvents before ++ (pending h.aggregate ++ pendingEvents after) := by
    simp [pendingEvents]
  rw [hsplit, List.foldlM_append, bind_eq_ok] at happlied
  obtain ⟨t₁, h₁, happlied⟩ := happlied
  rw [List.foldlM_append, bind_eq_ok] at happlied
  obtain ⟨t₂, h₂, h₃⟩ := happlied
  have hrow := row?_of_others hafter h₃
  rw [load_congr hrow, hrow]
  exact hh.own_written (row?_of_others hbefore h₁) h₂

theorem Tracks.consistent [DecidableEq κ] (hh : h.Tracks first) : h.Consistent first := by
  refine ⟨hh.agrees, fun before after halone hstored => ?_, fun before after hstored => ?_, fun before after => ?_⟩
  · rcases h.write_cases before after with ⟨hnot, -⟩ | ⟨-, hcleared, happlied⟩
    · simp [hstored] at hnot
    · obtain ⟨hkept, hdeleted⟩ := hh.written halone happlied
      refine ⟨hcleared, ?_⟩
      split
      · next hd => exact load_of_row?_eq_none (hdeleted hd)
      · next hd => exact hkept (by simpa using hd)
  · rcases h.write_cases before after with ⟨-, hsame⟩ | ⟨hnot, -⟩
    · exact hsame
    · simp [hstored] at hnot
  · intro isOther
    rcases h.write_cases before after with ⟨-, -, htables⟩ | ⟨-, -, happlied⟩
    · rw [htables]
    · refine filter_rows (fun e he r hr => ?_) happlied
      have hr := List.all_eq_true.mp hr e he
      simpa using hr

theorem Tracks.operate {o : ω} {a : A} (hh : h.Tracks first) (hsound : Sound A o)
    (ho : Kept.perform h.aggregate o = .ok a) :
    Tracks first { h with aggregate := a, isDeleted := h.isDeleted || isDelete A o } := by
  rcases LawfulKept.perform_eq_ok ho with ⟨rfl, hkept⟩ | ⟨e, hpending, hcleared, hkey, hnew, hdeletes, hreadable⟩
  · rw [hkept, Bool.or_false]
    exact hh
  · have hkeya : key a = key h.aggregate := by
      rw [← LawfulKept.key_cleared a, hcleared, LawfulKept.key_change, LawfulKept.key_cleared]
    have hfold {first : A} {es : List ε} (hes : es.foldl change first = cleared h.aggregate) :
        (es ++ [e]).foldl change first = cleared a := by
      rw [List.foldl_append, hes, hcleared]
      rfl
    have hall {P : ε → Prop} {es : List ε} (hes : ∀ e' ∈ es, P e') (he : P e) : ∀ e' ∈ es ++ [e], P e' :=
      List.forall_mem_append.mpr ⟨hes, List.forall_mem_singleton.mpr he⟩
    constructor
    case keys =>
      rw [hpending, hkeya]
      exact hall hh.keys hkey
    case readable =>
      rw [hpending]
      exact hall hh.readable (hreadable hsound)
    case kept =>
      intro hkept
      obtain ⟨hkept, hkeeps⟩ := Bool.or_eq_false_iff.mp hkept
      rw [hpending]
      exact hall (hh.kept hkept) (hdeletes.trans hkeeps)
    case changes =>
      intro hstored
      rw [hpending]
      exact hall (hh.changes hstored) hnew
    case begins =>
      intro hstored
      obtain ⟨e₀, es, hes, hfounded, hkeeps, hchanges⟩ := hh.begins hstored
      exact ⟨e₀, es ++ [e], by rw [hpending, hes]; rfl, hfounded, hkeeps, hall hchanges hnew⟩
    case agrees =>
      intro hkept
      have hagrees := hh.agrees (Bool.or_eq_false_iff.mp hkept).1
      unfold Agrees at hagrees ⊢
      cases hstored : h.isStored with
      | true =>
        rw [if_pos hstored] at hagrees
        obtain ⟨base, hbase, hes⟩ := hagrees
        exact ⟨base, by rw [hkeya]; exact hbase, by rw [hpending]; exact hfold hes⟩
      | false =>
        simp only [hstored] at hagrees
        obtain ⟨e₀, es, hes, hfounded, hagrees⟩ := hagrees
        exact ⟨e₀, es ++ [e], by rw [hpending, hes]; rfl, hfounded, hfold hagrees⟩
    case deleted =>
      intro hdeleted
      rcases Bool.or_eq_true_iff.mp hdeleted with hdeleted | hdelete
      · rcases hh.deleted hdeleted with ⟨e', he', hdeletes'⟩ | hnone
        · exact .inl ⟨e', by rw [hpending]; exact List.mem_append_left _ he', hdeletes'⟩
        · exact .inr (by rw [hkeya]; exact hnone)
      · exact .inl ⟨e, by rw [hpending]; exact List.mem_append_right _ List.mem_cons_self, hdeletes.trans hdelete⟩

section Moves

variable [DecidableEq κ] [DecidableEq ρ]

theorem Tracks.write (hh : h.Tracks first) (halone : h.isAlone before after = true) :
    Tracks first (h.perform (.write before after)) := by
  have hcases := h.write_cases before after
  rw [Held.perform, if_pos halone]
  rcases hwrite : h.write before after with ⟨result, as, store⟩
  simp only [hwrite] at hcases ⊢
  rcases hcases with ⟨hstored, rfl, htables⟩ | ⟨hstored, has, happlied⟩
  · simpa [hstored] using hh.elsewhere (s := store) (by rw [htables])
  · obtain ⟨hkept, hdeleted⟩ := hh.written halone happlied
    have hkey : key (cleared h.aggregate) = key h.aggregate := LawfulKept.key_cleared _
    have hpending : pending (cleared h.aggregate) = [] := pending_cleared _
    simp only [has, hstored, Bool.or_true, Option.getD_some]
    constructor
    case agrees =>
      intro hd
      have hload := hkept hd
      obtain ⟨-, -, hcleared⟩ := LawfulKept.of_load hload
      exact ⟨cleared h.aggregate, by rw [hkey]; exact hload, by rw [hpending]; exact hcleared.symm⟩
    case deleted =>
      intro hd
      exact .inr ⟨rfl, by rw [hkey]; exact hdeleted hd⟩
    case begins =>
      intro hnot
      cases hnot
    all_goals simp [hpending]

/-- **Every move keeps what holds of the pending events.** -/
theorem Tracks.perform {m : Move A ω} (hh : h.Tracks first) (hsound : m.IsSound) : Tracks first (h.perform m) := by
  cases m with
  | operate o =>
    rw [Held.perform]
    split
    · exact hh
    · next ho => exact hh.operate hsound ho
  | write before after =>
    cases halone : h.isAlone before after with
    | true => exact hh.write halone
    | false =>
      rw [Held.perform, if_neg (by simp [halone])]
      exact hh
  | elsewhere change =>
    rw [Held.perform]
    split
    · next hrow => exact hh.elsewhere hrow
    · exact hh

theorem Tracks.run {ms : List (Move A ω)} (hh : h.Tracks first) (hsound : ∀ m ∈ ms, m.IsSound) :
    Tracks first (h.run ms) := by
  induction ms generalizing h with
  | nil => exact hh
  | cons m ms ih =>
    obtain ⟨hm, hms⟩ := List.forall_mem_cons.mp hsound
    exact ih (hh.perform hm) hms

/-- **What the pending events and the row make of an aggregate holds after any moves.** -/
theorem consistent_of_begins (hbegins : h.Begins) {ms : List (Move A ω)} (hsound : ∀ m ∈ ms, m.IsSound) :
    (h.run ms).Consistent h.aggregate :=
  ((tracks_of_begins hbegins).run hsound).consistent

end Moves

end Held

/-- **Apps and deployments in memory agree with their rows**, however their operations and writes follow one another. -/
theorem aggregates_agree_with_rows :
    (∀ h : Held App, h.Begins → ∀ ms : List (Move App AppOperation), (∀ m ∈ ms, m.IsSound) →
      (h.run ms).Consistent h.aggregate) ∧
    ∀ h : Held Deployment, h.Begins → ∀ ms : List (Move Deployment DeploymentOperation),
      (h.run ms).Consistent h.aggregate := by
  refine ⟨fun h hbegins ms hsound => Held.consistent_of_begins hbegins hsound, fun h hbegins ms => ?_⟩
  have hsound : ∀ m ∈ ms, m.IsSound := by
    intro m _
    cases m <;> exact trivial
  exact Held.consistent_of_begins hbegins hsound

namespace ShortLife

def signature : Signature := ⟨default, default⟩

def name : AppName := ⟨"my-app", by decide⟩

def config : EnvConfig := ⟨default, default, none⟩

def repository : Url := ⟨"ssh", some "git.example", "/app", none, none⟩

/-- A store with a row of a deployment of the app in it. -/
def store : Store :=
  { db := { Database.empty with
      tables := ⟨[], [], [.ofCreated ⟨default, ⟨1⟩⟩ ⟨name, .production, default, none⟩ .initial signature]⟩ }
    bus := [], hub := ⟨.empty ⟨1, .zero, .zero⟩ 1, []⟩ }

/-- An app that was just made. -/
def app : Held App :=
  { aggregate := ⟨default, name, config, config, none, none, signature,
      EventBuffer.empty.record (.created default name config config signature)⟩
    store, isStored := false, isDeleted := false }

/-- The app is stored with its repository, and deleted after that. -/
def appMoves : List (Move App AppOperation) :=
  [.operate (.useVersionControl ⟨repository, none⟩), .write [] [], .operate (.requestCleanup signature),
    .operate .delete, .write [] []]

/-- A deployment that was read from its row. -/
def deployment : Held Deployment :=
  { aggregate := ⟨⟨default, ⟨1⟩⟩, ⟨name, .production, default, none⟩, .initial, signature, .empty⟩
    store, isStored := true, isDeleted := false }

/-- The deployment is started, closed in vain, and written. -/
def deploymentMoves : List (Move Deployment DeploymentOperation) :=
  [.operate (.markRunning default), .operate (.markSuperseded default ⟨2⟩), .write [] []]

theorem parse_repository : Url.parse repository.toText = .ok repository := rfl

theorem begins_app : app.Begins :=
  .new store ⟨default, name, .of config true true, .of config true true, signature, rfl⟩

theorem isSound_appMoves : ∀ m ∈ appMoves, m.IsSound := by
  simp [appMoves, Move.IsSound, Sound, parse_repository]

theorem begins_deployment : deployment.Begins := .loaded (k := ⟨default, ⟨1⟩⟩) rfl

end ShortLife

open ShortLife in
/-- An app lives and dies, and a deployment is started. -/
theorem aggregates_agree_with_rows_shortLife :
    (app.run appMoves).Consistent app.aggregate ∧ (app.run appMoves).isStored = true ∧
      (app.run appMoves).isDeleted = true ∧
      (deployment.run deploymentMoves).Consistent deployment.aggregate ∧
      (deployment.run deploymentMoves).aggregate.state.status = .running :=
  ⟨aggregates_agree_with_rows.1 app begins_app appMoves isSound_appMoves, by decide +kernel, by decide +kernel,
    aggregates_agree_with_rows.2 deployment begins_deployment deploymentMoves, by decide +kernel⟩

end Rollout
