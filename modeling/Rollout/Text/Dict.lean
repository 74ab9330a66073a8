/-!
# Dictionaries with text keys

A `Dict` holds its entries in strictly increasing order of their keys, so that two dictionaries with the same content
are equal. `insert` replaces the value of a key that is there already; of several entries with one key, `ofList` keeps
the last.
-/

namespace Rollout.Text

universe u

variable {α : Type u}

/-- The entries with `k` set to `v`. -/
def insertEntry (k : String) (v : α) : List (String × α) → List (String × α)
  | [] => [(k, v)]
  | (k', v') :: rest =>
    if k < k' then (k, v) :: (k', v') :: rest
    else if k = k' then (k, v) :: rest
    else (k', v') :: insertEntry k v rest

/-- Entries in strictly increasing order of their keys. -/
def Increasing (es : List (String × α)) : Prop := es.Pairwise (fun a b => a.1 < b.1)

theorem key_of_mem_insertEntry {k : String} {v : α} {es : List (String × α)} {e : String × α}
    (h : e ∈ insertEntry k v es) : e.1 = k ∨ e ∈ es := by
  induction es with
  | nil => simp [insertEntry] at h; exact .inl (by rw [h])
  | cons e' rest ih =>
    obtain ⟨k', v'⟩ := e'
    unfold insertEntry at h
    split at h
    · rcases List.mem_cons.mp h with h | h
      · exact .inl (by rw [h])
      · exact .inr h
    · split at h
      · rcases List.mem_cons.mp h with h | h
        · exact .inl (by rw [h])
        · exact .inr (List.mem_cons_of_mem _ h)
      · rcases List.mem_cons.mp h with h | h
        · exact .inr (by rw [h]; exact List.mem_cons_self)
        · rcases ih h with h | h
          · exact .inl h
          · exact .inr (List.mem_cons_of_mem _ h)

theorem increasing_insertEntry (k : String) (v : α) {es : List (String × α)} (h : Increasing es) :
    Increasing (insertEntry k v es) := by
  induction es with
  | nil => exact List.pairwise_singleton _ _
  | cons e rest ih =>
    obtain ⟨k', v'⟩ := e
    obtain ⟨hk', hrest⟩ := List.pairwise_cons.mp h
    unfold insertEntry
    split
    · rename_i hlt
      refine List.pairwise_cons.mpr ⟨fun e he => ?_, h⟩
      rcases List.mem_cons.mp he with he | he
      · rw [he]; exact hlt
      · exact String.lt_trans hlt (hk' e he)
    · split
      · rename_i heq
        exact List.pairwise_cons.mpr ⟨fun e he => by subst heq; exact hk' e he, hrest⟩
      · rename_i hlt hne
        refine List.pairwise_cons.mpr ⟨fun e he => ?_, ih hrest⟩
        rcases key_of_mem_insertEntry he with he | he
        · rw [he]
          exact String.not_le.mp fun hle =>
            hlt (String.not_le.mp fun hge => hne (String.le_antisymm hle hge))
        · exact hk' e he

theorem find?_insertEntry (k k' : String) (v : α) {es : List (String × α)} (h : Increasing es) :
    (insertEntry k v es).find? (·.1 = k') = if k = k' then some (k, v) else es.find? (·.1 = k') := by
  induction es with
  | nil => by_cases hk : k = k' <;> simp [insertEntry, hk]
  | cons e rest ih =>
    obtain ⟨l, x⟩ := e
    obtain ⟨hl, hrest⟩ := List.pairwise_cons.mp h
    unfold insertEntry
    split
    · by_cases hk : k = k' <;> simp [hk]
    · split
      · rename_i heq
        subst heq
        by_cases hk : k = k' <;> simp [hk]
      · rename_i hne
        rw [List.find?_cons, List.find?_cons, ih hrest]
        by_cases hk : k = k'
        · subst hk
          simp [Ne.symm hne]
        · simp [hk]

structure Dict (α : Type u) where
  entries : List (String × α)
  increasing : Increasing entries
deriving DecidableEq

namespace Dict

def empty : Dict α := ⟨[], List.Pairwise.nil⟩

instance : EmptyCollection (Dict α) := ⟨empty⟩

instance : Inhabited (Dict α) := ⟨empty⟩

def insert (d : Dict α) (k : String) (v : α) : Dict α :=
  ⟨insertEntry k v d.entries, increasing_insertEntry k v d.increasing⟩

def ofList (es : List (String × α)) : Dict α := es.foldl (fun d e => d.insert e.1 e.2) empty

def get? (d : Dict α) (k : String) : Option α := (d.entries.find? (·.1 = k)).map (·.2)

theorem get?_insert (d : Dict α) (k k' : String) (v : α) :
    (d.insert k v).get? k' = if k = k' then some v else d.get? k' := by
  unfold get? insert
  rw [find?_insertEntry k k' v d.increasing]
  split <;> simp_all

end Dict

end Rollout.Text
