/-!
# Pending events

An aggregate keeps the events it raised, oldest first, until they are taken to be written.
-/

namespace Rollout

structure EventBuffer (ε : Type) where
  events : List ε
deriving DecidableEq

namespace EventBuffer

variable {ε : Type}

def empty : EventBuffer ε := ⟨[]⟩

def record (b : EventBuffer ε) (e : ε) : EventBuffer ε := ⟨b.events ++ [e]⟩

/-- The events taken out, and the buffer without them. -/
def drain (b : EventBuffer ε) : List ε × EventBuffer ε := (b.events, empty)

def size (b : EventBuffer ε) : Nat := b.events.length

def isEmpty (b : EventBuffer ε) : Bool := b.events.isEmpty

@[simp] theorem events_empty : (empty : EventBuffer ε).events = [] := rfl

@[simp] theorem events_record (b : EventBuffer ε) (e : ε) : (b.record e).events = b.events ++ [e] := rfl

@[simp] theorem drain_eq (b : EventBuffer ε) : b.drain = (b.events, empty) := rfl

theorem isEmpty_iff (b : EventBuffer ε) : b.isEmpty = true ↔ b = empty := by
  cases b
  simp [isEmpty, empty]

end EventBuffer

end Rollout
