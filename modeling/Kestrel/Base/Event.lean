import Mathlib.Data.List.Basic
import Mathlib.Tactic.Cases

/-!
# Events that suspended tasks wait for

A set event holds no sleeping waiter, so a set that follows a clear reaches every task that slept in
between.
-/

/-- How a suspended task goes on: not yet, after the event, or with a cancellation. -/
inductive Wake where
  | asleep
  | woken
  | cancelled
  deriving DecidableEq, Repr

namespace Wake

/-- What a set does to a waiter. One that is scheduled stays as it is. -/
def rouse : Wake → Wake
  | .asleep => .woken
  | wake => wake

@[simp] theorem rouse_ne_asleep (wake : Wake) : wake.rouse ≠ .asleep := by
  cases wake <;> simp [rouse]

end Wake

/-- A suspended call with its wake-up. -/
structure Waiter (Call : Type*) where
  call : Call
  wake : Wake
  deriving DecidableEq, Repr

namespace Waiter

variable {Call : Type*}

def rouse (waiter : Waiter Call) : Waiter Call := { waiter with wake := waiter.wake.rouse }

@[simp] theorem rouse_call (waiter : Waiter Call) : waiter.rouse.call = waiter.call := rfl

/-- The task is in the ready queue. -/
def Scheduled (waiter : Waiter Call) : Prop := waiter.wake ≠ .asleep

@[simp] theorem rouse_scheduled (waiter : Waiter Call) : waiter.rouse.Scheduled :=
  Wake.rouse_ne_asleep waiter.wake

end Waiter

/-- An event whose waiters are all scheduled while it is set. -/
structure Event (Call : Type*) where
  value : Bool
  waiters : List (Waiter Call)
  quiet : value = true → ∀ waiter ∈ waiters, waiter.Scheduled

namespace Event

variable {Call : Type*}

def initial : Event Call where
  value := false
  waiters := []
  quiet := fun set => absurd set Bool.false_ne_true

def set (event : Event Call) : Event Call :=
  if event.value then event
  else
    { value := true
      waiters := event.waiters.map Waiter.rouse
      quiet := fun _ waiter member => by
        obtain ⟨other, _, rfl⟩ := List.mem_map.mp member
        exact other.rouse_scheduled }

/-- `Event.clear` and a wait in one go: the call sleeps. -/
def clearAndWait (event : Event Call) (call : Call) : Event Call where
  value := false
  waiters := event.waiters ++ [⟨call, .asleep⟩]
  quiet := fun set => absurd set Bool.false_ne_true

def leave (event : Event Call) (before after : List (Waiter Call)) (waiter : Waiter Call)
    (split : event.waiters = before ++ waiter :: after) : Event Call where
  value := event.value
  waiters := before ++ after
  quiet := fun set other member => event.quiet set other (by
    rw [split, List.mem_append, List.mem_cons]
    exact (List.mem_append.mp member).imp_right .inr)

def cancel (event : Event Call) (before after : List (Waiter Call)) (waiter : Waiter Call)
    (split : event.waiters = before ++ waiter :: after) : Event Call where
  value := event.value
  waiters := before ++ ⟨waiter.call, .cancelled⟩ :: after
  quiet := fun set other member => by
    rcases List.mem_append.mp member with earlier | later
    · exact event.quiet set other (split ▸ List.mem_append_left _ earlier)
    · rcases List.mem_cons.mp later with rfl | later
      · exact fun sleeping => Wake.noConfusion sleeping
      · exact event.quiet set other
          (split ▸ List.mem_append_right _ (List.mem_cons_of_mem _ later))

theorem scheduled_of_mem_set (event : Event Call) :
    ∀ waiter ∈ event.set.waiters, waiter.Scheduled := by
  intro waiter member
  unfold set at member
  by_cases value : event.value = true
  · rw [if_pos value] at member
    exact event.quiet value waiter member
  · rw [if_neg value] at member
    obtain ⟨other, _, rfl⟩ := List.mem_map.mp member
    exact other.rouse_scheduled

@[simp] theorem map_call_set (event : Event Call) :
    event.set.waiters.map Waiter.call = event.waiters.map Waiter.call := by
  unfold set
  by_cases value : event.value = true
  · rw [if_pos value]
  · rw [if_neg value, List.map_map]
    rfl

end Event
