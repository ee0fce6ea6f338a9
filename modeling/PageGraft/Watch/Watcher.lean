/-!
# Watchers

A watcher looks at the stamp of a file from time to time. A change starts a quiet period, and every
further change starts it anew; when the file has been quiet for long enough, a sync is due. The steps
are separate functions, since anything can happen to the file between them.
-/

namespace PageGraft.Watch

/-- What a watcher remembers: the stamp that it saw last (none without a file), since when a change
waits for a sync, and how many syncs it has started. -/
structure Watcher (Stamp Time : Type) where
  seen : Option Stamp
  pendingSince : Option Time := none
  attempts : Nat := 0
deriving Repr, DecidableEq

namespace Watcher

variable {Stamp Time : Type}

/-- Whether a change has been seen and waits for a sync. -/
def isPending (watcher : Watcher Stamp Time) : Bool :=
  watcher.pendingSince.isSome

/-- Takes note of the stamp at some time. -/
def observe [DecidableEq Stamp] (watcher : Watcher Stamp Time) (stamp : Option Stamp)
    (now : Time) : Watcher Stamp Time :=
  if stamp = watcher.seen then watcher
  else { watcher with seen := stamp, pendingSince := some now }

/-- Whether the file has been quiet for the delay since the change that waits. -/
def isDue [Sub Time] [LT Time] [DecidableLT Time] (watcher : Watcher Stamp Time)
    (delay now : Time) : Bool :=
  match watcher.pendingSince with
  | none => false
  | some since => !decide (now - since < delay)

/-- No change waits any more; this is so before the sync of the change begins. -/
def settle (watcher : Watcher Stamp Time) : Watcher Stamp Time :=
  { watcher with pendingSince := none }

/-- Counts a sync that begins. -/
def attempt (watcher : Watcher Stamp Time) : Watcher Stamp Time :=
  { watcher with attempts := watcher.attempts + 1 }

/-- One look at the file: the watcher after it, and whether a sync is due. The watcher has then
settled, and its sync has still to begin. -/
def poll [DecidableEq Stamp] [Sub Time] [LT Time] [DecidableLT Time]
    (watcher : Watcher Stamp Time) (delay : Time) (stamp : Option Stamp) (now : Time) :
    Watcher Stamp Time × Bool :=
  let observed := watcher.observe stamp now
  if observed.isDue delay now then (observed.settle, true) else (observed, false)

section Observe

variable [DecidableEq Stamp]

@[simp]
theorem seen_observe (watcher : Watcher Stamp Time) (stamp : Option Stamp) (now : Time) :
    (watcher.observe stamp now).seen = stamp := by
  unfold observe
  split
  · simp_all
  · rfl

theorem observe_seen (watcher : Watcher Stamp Time) (now : Time) :
    watcher.observe watcher.seen now = watcher :=
  if_pos rfl

@[simp]
theorem attempts_observe (watcher : Watcher Stamp Time) (stamp : Option Stamp) (now : Time) :
    (watcher.observe stamp now).attempts = watcher.attempts := by
  unfold observe
  split <;> rfl

theorem pendingSince_observe (watcher : Watcher Stamp Time) (stamp : Option Stamp) (now : Time) :
    (watcher.observe stamp now).pendingSince =
      if stamp = watcher.seen then watcher.pendingSince else some now := by
  unfold observe
  split <;> rfl

end Observe

@[simp]
theorem isPending_settle (watcher : Watcher Stamp Time) : watcher.settle.isPending = false := rfl

section Poll

variable [Sub Time] [LT Time] [DecidableLT Time]

theorem isDue_iff (watcher : Watcher Stamp Time) (delay now : Time) :
    watcher.isDue delay now = true ↔
      ∃ since, watcher.pendingSince = some since ∧ ¬ now - since < delay := by
  unfold isDue
  split
  · simp_all
  · simp_all

variable [DecidableEq Stamp]

theorem snd_poll (watcher : Watcher Stamp Time) (delay : Time) (stamp : Option Stamp) (now : Time) :
    (watcher.poll delay stamp now).2 = (watcher.observe stamp now).isDue delay now := by
  unfold poll
  by_cases hdue : (watcher.observe stamp now).isDue delay now
  · simp [hdue]
  · simp [hdue]

@[simp]
theorem seen_poll (watcher : Watcher Stamp Time) (delay : Time) (stamp : Option Stamp) (now : Time) :
    (watcher.poll delay stamp now).1.seen = stamp := by
  unfold poll
  by_cases hdue : (watcher.observe stamp now).isDue delay now
  · simp [hdue, settle]
  · simp [hdue]

@[simp]
theorem attempts_poll (watcher : Watcher Stamp Time) (delay : Time) (stamp : Option Stamp)
    (now : Time) : (watcher.poll delay stamp now).1.attempts = watcher.attempts := by
  unfold poll
  by_cases hdue : (watcher.observe stamp now).isDue delay now
  · simp [hdue, settle]
  · simp [hdue]

theorem pendingSince_poll (watcher : Watcher Stamp Time) (delay : Time) (stamp : Option Stamp)
    (now : Time) :
    (watcher.poll delay stamp now).1.pendingSince =
      if (watcher.poll delay stamp now).2 then none
      else (watcher.observe stamp now).pendingSince := by
  rw [snd_poll]
  unfold poll
  by_cases hdue : (watcher.observe stamp now).isDue delay now
  · simp [hdue, settle]
  · simp [hdue]

end Poll

end Watcher

end PageGraft.Watch
