import Rollout.Job.Guard
import Rollout.Proofs.Work.Grace

/-!
# What there is to be seen while somebody waits

A token is cancelled from when the first on the way to it is (`TokenPath.hasPassed_token`). A wait is told by the looks
of the one that waits (`sights`): the first that finds what it looks for ends it (`await_eq`), and since looks come in
order and each cancellation that matters is followed by one (`exists_sight_of_cancel`), it ends when the first of them
comes (`await_of_first`). Polling and waiting find the same reasons (`JobContext.stopped_eq_some_iff`), and neither
notices that a child of the token is cancelled (`JobContext.inherits`).
-/

namespace Rollout

/-! ## Tokens -/

namespace Context

variable {o : Option Instant} {now : Instant}

theorem hasPassed_iff : hasPassed now o = true ↔ ∃ t, o = some t ∧ t ≤ now := by
  cases o with
  | none => simp [hasPassed]
  | some t => simp [hasPassed]

theorem hasPassed_eq_false_iff : hasPassed now o = false ↔ ∀ t, o = some t → now < t := by
  rw [Bool.eq_false_iff, Ne, hasPassed_iff]
  simp only [not_exists, not_and, Nat.not_le]

end Context

namespace Token

variable {t : Token} {now c : Instant}

theorem hasPassed_earlier (a b : Option Instant) :
    Context.hasPassed now (earlier a b) = (Context.hasPassed now a || Context.hasPassed now b) := by
  cases a with
  | none => cases b <;> simp [earlier, Context.hasPassed]
  | some a => cases b <;> simp [earlier, Context.hasPassed]

/-- A token that is cancelled at an instant is so from then on. -/
theorem hasPassed_cancel (t : Token) (c : Instant) :
    Context.hasPassed now (t.cancel c).cancelledAt = (Context.hasPassed now t.cancelledAt || decide (c ≤ now)) := by
  obtain ⟨chain⟩ := t
  cases chain with
  | nil => simp [cancel, cancelledAt, earlier, Context.hasPassed]
  | cons own rest =>
    simp only [cancel, cancelledAt, List.foldr_cons, hasPassed_earlier]
    simp only [Context.hasPassed]
    exact Bool.or_right_comm _ _ _

theorem hasPassed_foldl_cancel (cancels : List (Instant × TokenPath)) (t : Token) :
    Context.hasPassed now (cancels.foldl (fun t e => t.cancel e.1) t).cancelledAt = true ↔
      Context.hasPassed now t.cancelledAt = true ∨ ∃ e ∈ cancels, e.1 ≤ now := by
  induction cancels generalizing t with
  | nil => simp
  | cons e cancels ih =>
    rw [List.foldl_cons, ih, hasPassed_cancel, Bool.or_eq_true, decide_eq_true_iff, List.exists_mem_cons_iff, or_assoc]

end Token

namespace TokenPath

variable {cancels : List (Instant × TokenPath)} {now c : Instant}

/-- A token is cancelled from when it or one of its ancestors is. -/
theorem hasPassed_token (cancels : List (Instant × TokenPath)) (t : TokenPath) :
    Context.hasPassed now (t.token cancels).cancelledAt = true ↔ ∃ e ∈ cancels, e.1 ≤ now ∧ e.2 <:+ t := by
  induction t with
  | nil =>
    rw [token, Token.hasPassed_foldl_cancel]
    simp [Token.fresh, Token.cancelledAt, earlier, Context.hasPassed, and_assoc, and_comm]
  | cons n parent ih =>
    rw [token, Token.hasPassed_foldl_cancel, Token.cancelledAt_child, ih]
    simp only [List.mem_filter, decide_eq_true_iff, List.suffix_cons_iff]
    constructor
    · rintro (⟨e, he, hle, hsuffix⟩ | ⟨e, ⟨he, hself⟩, hle⟩)
      · exact ⟨e, he, hle, .inr hsuffix⟩
      · exact ⟨e, he, hle, .inl hself⟩
    · rintro ⟨e, he, hle, hself | hsuffix⟩
      · exact .inr ⟨e, ⟨he, hself⟩, hle⟩
      · exact .inl ⟨e, he, hle, hsuffix⟩

/-- The first cancellation that reaches a token is the one that counts. -/
theorem cancelledAt_token_eq_some {t : TokenPath} (h : (t.token cancels).cancelledAt = some c) :
    (∃ e ∈ cancels, e.1 = c ∧ e.2 <:+ t) ∧ ∀ e ∈ cancels, e.2 <:+ t → c ≤ e.1 := by
  have hpassed (now : Instant) : c ≤ now ↔ ∃ e ∈ cancels, e.1 ≤ now ∧ e.2 <:+ t := by
    rw [← hasPassed_token, h, Context.hasPassed_some]
  have hfirst : ∀ e ∈ cancels, e.2 <:+ t → c ≤ e.1 := fun e he hsuffix => (hpassed e.1).mpr ⟨e, he, le_rfl, hsuffix⟩
  obtain ⟨e, he, hle, hsuffix⟩ := (hpassed c).mp le_rfl
  exact ⟨⟨e, he, le_antisymm hle (hfirst e he hsuffix), hsuffix⟩, hfirst⟩

theorem cancelledAt_token_eq_none {t : TokenPath} (h : (t.token cancels).cancelledAt = none) {e : Instant × TokenPath}
    (he : e ∈ cancels) : ¬e.2 <:+ t := by
  intro hsuffix
  obtain ⟨c, hc, -⟩ := Context.hasPassed_iff.mp ((hasPassed_token cancels t).mpr ⟨e, he, le_rfl, hsuffix⟩)
  cases h.symm.trans hc

/-- A cancellation that does not reach the token leaves it as it is. -/
theorem token_of_not_suffix {t : TokenPath} {e : Instant × TokenPath} {l₁ l₂ : List (Instant × TokenPath)}
    (h : ¬e.2 <:+ t) : t.token (l₁ ++ e :: l₂) = t.token (l₁ ++ l₂) := by
  induction t with
  | nil =>
    have hne : e.2 ≠ [] := fun heq => h (heq ▸ List.suffix_refl _)
    simp [token, hne]
  | cons n parent ih =>
    have hne : e.2 ≠ n :: parent := fun heq => h (heq ▸ List.suffix_refl _)
    have hparent : ¬e.2 <:+ parent := fun hsuffix => h (hsuffix.trans (List.suffix_cons n parent))
    simp [token, hne, ih hparent]

end TokenPath

/-! ## Looks -/

namespace Sight

variable {s : Sight} {t a : TokenPath}

theorem hasCancelled_iff : s.hasCancelled t = true ↔ ∃ a ∈ s.cancelled, a <:+ t := by
  simp [hasCancelled]

/-- An ancestor that is cancelled takes the token with it. -/
theorem hasCancelled_of_ancestor (hsuffix : a <:+ t) (h : s.hasCancelled a = true) : s.hasCancelled t = true := by
  obtain ⟨b, hb, hba⟩ := hasCancelled_iff.mp h
  exact hasCancelled_iff.mpr ⟨b, hb, hba.trans hsuffix⟩

/-- A token further down does not. -/
theorem hasCancelled_cancel (h : ¬a <:+ t) : (s.cancel a).hasCancelled t = s.hasCancelled t := by
  simp [hasCancelled, cancel, h]

end Sight

namespace JobContext

variable {β : Type} {c : JobContext} {s : Sight} {source : Source β} {reason : Stop}

theorem check_of_cancelled (h : s.hasCancelled c.token = true) : c.check s = .error .cancelled := if_pos h

theorem check_of_passed (hcancelled : s.hasCancelled c.token = false)
    (hpassed : Context.hasPassed s.now c.deadline = true) : c.check s = .error .deadlineExceeded := by
  rw [check, hcancelled, if_neg Bool.false_ne_true, if_pos hpassed]

theorem check_eq_ok_iff : c.check s = .ok () ↔ c.isCancelled s = false := by
  unfold check isCancelled
  cases s.hasCancelled c.token <;> cases Context.hasPassed s.now c.deadline <;> simp

theorem exists_check_eq_error_iff : (∃ reason, c.check s = .error reason) ↔ c.isCancelled s = true := by
  unfold check isCancelled
  cases s.hasCancelled c.token <;> cases Context.hasPassed s.now c.deadline <;> simp

/-- The stop that is waited for is the one that polling finds. -/
theorem stopped_eq_some_iff : c.stopped s = some reason ↔ c.check s = .error reason := by
  unfold stopped check Source.biased Source.map Source.cancellation Source.deadline
  cases s.hasCancelled c.token <;> cases Context.hasPassed s.now c.deadline <;> simp

/-- What is guarded is not asked while there is a reason to stop. -/
theorem guard_of_error (h : c.check s = .error reason) : c.guard source s = some (.error reason) := by
  rw [guard, Source.biased, Source.map, stopped_eq_some_iff.mpr h, Option.map_some, Option.some_or]

theorem guard_of_ok (h : c.check s = .ok ()) : c.guard source s = (source s).map .ok := by
  have hnone : c.stopped s = none := by
    rw [Option.eq_none_iff_forall_ne_some]
    intro reason hreason
    cases h.symm.trans (stopped_eq_some_iff.mp hreason)
  rw [guard, Source.biased, Source.map, hnone, Option.map_none, Option.none_or, Source.map]

/-- What is guarded gives no reason to stop of its own. -/
theorem guard_eq_error_iff : c.guard source s = some (.error reason) ↔ c.check s = .error reason := by
  refine ⟨fun h => ?_, guard_of_error⟩
  cases hcheck : c.check s with
  | error reason' =>
    cases (guard_of_error hcheck).symm.trans h
    rfl
  | ok _ =>
    rw [guard_of_ok hcheck] at h
    obtain ⟨b, -, heq⟩ := Option.map_eq_some_iff.mp h
    cases heq

end JobContext

theorem Source.ofDone_eq_some_iff {β : Type} {done : Option (Instant × β)} {s : Sight} {b : β} :
    ofDone done s = some b ↔ ∃ f, done = some (f, b) ∧ f ≤ s.now := by
  unfold ofDone
  cases done with
  | none => simp
  | some d =>
    obtain ⟨f, b'⟩ := d
    simp [and_comm]

/-! ## Waits -/

/-- What is to be seen at the looks, when these tokens have been cancelled. -/
def sights (cancelled : List TokenPath) : List (Instant × Happening) → List Sight
  | [] => []
  | (_, .cancel t) :: rest => sights (t :: cancelled) rest
  | (now, .look) :: rest => ⟨now, cancelled⟩ :: sights cancelled rest

section Sights

variable {β : Type} {source : Source β} {cancelled : List TokenPath} {es : List (Instant × Happening)} {s : Sight}
  {t m : Instant} {a token : TokenPath}

/-- The first look at which the source is ready ends the wait. -/
theorem await_eq (source : Source β) (cancelled : List TokenPath) (es : List (Instant × Happening)) :
    await source cancelled es = (sights cancelled es).findSome? fun s => (source s).map (s.now, ·) := by
  fun_induction await source cancelled es with
  | case1 => rfl
  | case2 cancelled t a rest ih => rw [ih, sights]
  | case3 cancelled now rest b hready => simp [sights, hready]
  | case4 cancelled now rest hnone ih => simp [sights, hnone, ih]

/-- What is seen cancelled was so before, or has been since. -/
theorem of_mem_sights (hordered : es.Pairwise (·.1 ≤ ·.1)) (hs : s ∈ sights cancelled es) :
    (s.now, .look) ∈ es ∧ ∀ a ∈ s.cancelled, a ∈ cancelled ∨ ∃ t ≤ s.now, (t, .cancel a) ∈ es := by
  fun_induction sights cancelled es with
  | case1 => cases hs
  | case2 cancelled t a rest ih =>
    obtain ⟨hfirst, hrest⟩ := List.pairwise_cons.mp hordered
    obtain ⟨hlook, hseen⟩ := ih hrest hs
    refine ⟨List.mem_cons_of_mem _ hlook, fun b hb => ?_⟩
    rcases hseen b hb with hb | ⟨u, hu, hcancel⟩
    · rcases List.mem_cons.mp hb with rfl | hb
      · exact .inr ⟨t, hfirst _ hlook, List.mem_cons_self⟩
      · exact .inl hb
    · exact .inr ⟨u, hu, List.mem_cons_of_mem _ hcancel⟩
  | case3 cancelled now rest ih =>
    obtain ⟨-, hrest⟩ := List.pairwise_cons.mp hordered
    rcases List.mem_cons.mp hs with rfl | hs
    · exact ⟨List.mem_cons_self, fun b hb => .inl hb⟩
    · obtain ⟨hlook, hseen⟩ := ih hrest hs
      refine ⟨List.mem_cons_of_mem _ hlook, fun b hb => (hseen b hb).imp_right ?_⟩
      rintro ⟨u, hu, hcancel⟩
      exact ⟨u, hu, List.mem_cons_of_mem _ hcancel⟩

theorem cancelled_subset_of_mem_sights (hs : s ∈ sights cancelled es) : cancelled ⊆ s.cancelled := by
  fun_induction sights cancelled es with
  | case1 => cases hs
  | case2 cancelled t a rest ih => exact List.Subset.trans (List.subset_cons_self a cancelled) (ih hs)
  | case3 cancelled now rest ih =>
    rcases List.mem_cons.mp hs with rfl | hs
    · exact List.Subset.refl _
    · exact ih hs

theorem exists_sight (h : (t, .look) ∈ es) (cancelled : List TokenPath) : ∃ s ∈ sights cancelled es, s.now = t := by
  fun_induction sights cancelled es with
  | case1 => cases h
  | case2 cancelled u a rest ih =>
    rcases List.mem_cons.mp h with heq | h
    · cases heq
    · exact ih h
  | case3 cancelled now rest ih =>
    rcases List.mem_cons.mp h with heq | h
    · cases heq
      exact ⟨_, List.mem_cons_self, rfl⟩
    · obtain ⟨s, hs, hnow⟩ := ih h
      exact ⟨s, List.mem_cons_of_mem _ hs, hnow⟩

/-- A cancellation that wakes is seen at once. -/
theorem exists_sight_of_cancel (hwakes : WakesOnCancel token es) (h : (t, .cancel a) ∈ es) (ha : a <:+ token)
    (cancelled : List TokenPath) : ∃ s ∈ sights cancelled es, s.now = t ∧ s.hasCancelled token = true := by
  fun_induction sights cancelled es with
  | case1 => cases h
  | case2 cancelled u b rest ih =>
    obtain ⟨hwake, hrest⟩ := hwakes
    rcases List.mem_cons.mp h with heq | h
    · cases heq
      obtain ⟨s, hs, hnow⟩ := exists_sight (hwake ha) (a :: cancelled)
      have hseen : a ∈ s.cancelled := cancelled_subset_of_mem_sights hs List.mem_cons_self
      exact ⟨s, hs, hnow, Sight.hasCancelled_iff.mpr ⟨a, hseen, ha⟩⟩
    · exact ih hrest h
  | case3 cancelled now rest ih =>
    rcases List.mem_cons.mp h with heq | h
    · cases heq
    · obtain ⟨s, hs, hseen⟩ := ih hwakes h
      exact ⟨s, List.mem_cons_of_mem _ hs, hseen⟩

theorem ordered_sights (hordered : es.Pairwise (·.1 ≤ ·.1)) (cancelled : List TokenPath) :
    (sights cancelled es).Pairwise (·.now ≤ ·.now) := by
  fun_induction sights cancelled es with
  | case1 => exact .nil
  | case2 cancelled t a rest ih => exact ih (List.pairwise_cons.mp hordered).2
  | case3 cancelled now rest ih =>
    obtain ⟨hfirst, hrest⟩ := List.pairwise_cons.mp hordered
    exact List.pairwise_cons.mpr ⟨fun s hs => hfirst _ (of_mem_sights hrest hs).1, ih hrest⟩

/-- A wait ends at the first instant at which a look finds the source ready. -/
theorem await_of_first {b : β} (hordered : es.Pairwise (·.1 ≤ ·.1))
    (hready : ∃ s ∈ sights cancelled es, s.now = m ∧ source s = some b)
    (hfirst : ∀ s ∈ sights cancelled es, ∀ b', source s = some b' → m < s.now ∨ (m ≤ s.now ∧ b' = b)) :
    await source cancelled es = some (m, b) := by
  rw [await_eq]
  generalize hlooks : sights cancelled es = looks at hready hfirst
  have hsorted : looks.Pairwise (·.now ≤ ·.now) := hlooks ▸ ordered_sights hordered cancelled
  clear hlooks
  induction looks with
  | nil =>
    obtain ⟨s, hs, -⟩ := hready
    cases hs
  | cons s looks ih =>
    obtain ⟨hleast, hrest⟩ := List.pairwise_cons.mp hsorted
    obtain ⟨s', hs', hnow, hb⟩ := hready
    cases hsource : source s with
    | some b' =>
      have hle : s.now ≤ m := by
        rcases List.mem_cons.mp hs' with rfl | hs'
        · exact hnow.le
        · exact hnow ▸ hleast s' hs'
      obtain hlt | ⟨hge, rfl⟩ := hfirst s List.mem_cons_self b' hsource
      · exact absurd hlt (Nat.not_lt.mpr hle)
      · rw [List.findSome?_cons, hsource, Option.map_some, le_antisymm hle hge]
    | none =>
      rw [List.findSome?_cons, hsource, Option.map_none]
      refine ih ?_ (fun t ht => hfirst t (List.mem_cons_of_mem _ ht)) hrest
      rcases List.mem_cons.mp hs' with rfl | hs'
      · cases hsource.symm.trans hb
      · exact ⟨s', hs', hnow, hb⟩

theorem await_of_never (h : ∀ s ∈ sights cancelled es, source s = none) : await source cancelled es = none := by
  rw [await_eq, List.findSome?_eq_none_iff]
  intro s hs
  rw [h s hs, Option.map_none]

/-- What a wait gives was ready at a look. -/
theorem exists_sight_of_await {b : β} (h : await source cancelled es = some (t, b)) :
    ∃ s ∈ sights cancelled es, s.now = t ∧ source s = some b := by
  rw [await_eq] at h
  obtain ⟨s, hs, hsource⟩ := List.exists_of_findSome?_eq_some h
  obtain ⟨b', hb', heq⟩ := Option.map_eq_some_iff.mp hsource
  cases heq
  exact ⟨s, hs, rfl, hb'⟩

end Sights

namespace JobContext

section Inheritance

variable {β : Type} {c : JobContext} {done : Option (Instant × β)} {k k' : List TokenPath} {a : TokenPath}

/-- A strict descendant is not on the way to the token. -/
theorem not_suffix_of_descendant (h : c.token <:+ a) (hne : a ≠ c.token) : ¬a <:+ c.token := fun hsuffix =>
  hne (hsuffix.eq_of_length_le h.length_le)

theorem check_congr {s s' : Sight} (hnow : s.now = s'.now)
    (hcancelled : s.hasCancelled c.token = s'.hasCancelled c.token) : c.check s = c.check s' := by
  rw [check, check, hnow, hcancelled]

/-- A wait under a context only depends on what is cancelled as far as it reaches the token. -/
theorem await_congr (h : k.any (·.isSuffixOf c.token) = k'.any (·.isSuffixOf c.token))
    (es : List (Instant × Happening)) :
    await (c.guard (.ofDone done)) k es = await (c.guard (.ofDone done)) k' es := by
  induction es generalizing k k' with
  | nil => rfl
  | cons e es ih =>
    obtain ⟨t, happening⟩ := e
    cases happening with
    | cancel b => exact ih (by rw [List.any_cons, List.any_cons, h])
    | look =>
      have hcheck : c.check ⟨t, k⟩ = c.check ⟨t, k'⟩ := check_congr rfl h
      have hguard : c.guard (.ofDone done) ⟨t, k⟩ = c.guard (.ofDone done) ⟨t, k'⟩ := by
        cases hk : c.check ⟨t, k⟩ with
        | error reason => rw [guard_of_error hk, guard_of_error (hcheck ▸ hk)]
        | ok _ =>
          rw [guard_of_ok hk, guard_of_ok (hcheck ▸ hk)]
          rfl
      rw [await, await, hguard, ih h]

theorem await_of_not_suffix (h : ¬a <:+ c.token) (k : List TokenPath) (before after : List (Instant × Happening))
    (t : Instant) : await (c.guard (.ofDone done)) k (before ++ (t, .cancel a) :: after) =
      await (c.guard (.ofDone done)) k (before ++ after) := by
  induction before generalizing k with
  | nil =>
    refine await_congr ?_ after
    rw [List.any_cons, Bool.or_eq_right_iff_imp]
    intro hsuffix
    exact absurd (List.isSuffixOf_iff_suffix.mp hsuffix) h
  | cons e before ih =>
    obtain ⟨u, happening⟩ := e
    cases happening with
    | cancel b => exact ih (b :: k)
    | look => rw [List.cons_append, List.cons_append, await, await, ih]

end Inheritance

/-- The ways of polling a context agree. -/
structure Polls (c : JobContext) : Prop where
  fails : ∀ s : Sight, (∃ reason, c.check s = .error reason) ↔ c.isCancelled s = true
  cancelled : ∀ s : Sight, s.hasCancelled c.token = true → c.check s = .error .cancelled

theorem polls (c : JobContext) : c.Polls where
  fails _ := exists_check_eq_error_iff
  cancelled _ := check_of_cancelled

/-- A context stops with the ancestors of its token, but not with its descendants. -/
structure Inherits (c : JobContext) : Prop where
  ancestor : ∀ (s : Sight) (a : TokenPath), a <:+ c.token → s.hasCancelled a = true → c.check s = .error .cancelled
  descendant : ∀ (s : Sight) (a : TokenPath), c.token <:+ a → a ≠ c.token →
    c.check (s.cancel a) = c.check s ∧ c.isCancelled (s.cancel a) = c.isCancelled s
  /-- No wait is another one when a descendant is cancelled meanwhile. -/
  await : ∀ {β : Type} (done : Option (Instant × β)) (k : List TokenPath) (before after : List (Instant × Happening))
    (t : Instant) (a : TokenPath), c.token <:+ a → a ≠ c.token →
    await (c.guard (.ofDone done)) k (before ++ (t, .cancel a) :: after) =
      await (c.guard (.ofDone done)) k (before ++ after)
  /-- Nor does the token stop at another instant. -/
  token : ∀ (before after : List (Instant × TokenPath)) (e : Instant × TokenPath), c.token <:+ e.2 → e.2 ≠ c.token →
    c.token.token (before ++ e :: after) = c.token.token (before ++ after)

theorem inherits (c : JobContext) : c.Inherits where
  ancestor _ _ hsuffix h := check_of_cancelled (Sight.hasCancelled_of_ancestor hsuffix h)
  descendant s a h hne := by
    have hsame := Sight.hasCancelled_cancel (s := s) (not_suffix_of_descendant h hne)
    refine ⟨check_congr rfl hsame, ?_⟩
    rw [isCancelled, isCancelled, hsame]
    rfl
  await done k before after t a h hne := await_of_not_suffix (not_suffix_of_descendant h hne) k before after t
  token before after e h hne := TokenPath.token_of_not_suffix (not_suffix_of_descendant h hne)

end JobContext

end Rollout
