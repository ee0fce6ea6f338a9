import Mathlib.Order.Defs.LinearOrder
import PageGraft.Proofs.Interleaving

/-!
# Which polls sync

A watcher remembers one stamp and one moment. Which polls attempt a sync can nevertheless be read off
all the stamps that were observed and the times of the polls: the change of some poll waits still
(`Waits`), and the delay has passed since that poll. By induction over the polls the moment that is
remembered is the one of the poll whose change waits (`pendingSince_iff`); the other results follow from
that without another look at the watcher.
-/

namespace PageGraft.Watch

open PageGraft.File PageGraft.Settings

/-! ## Changes that wait -/

section Waits

variable {Stamp : Type} {observed other : Nat → Option Stamp} {attempted otherAttempted : Nat → Prop}
  {j k : Nat}

/-- At poll `k` the change that poll `j` was the first to see waits for its sync: all polls since then
saw the same stamp, and those before `k` did not attempt a sync. The stamp that poll `i` sees has the
number `i + 1`; number 0 is the one from before all polls. -/
structure Waits (observed : Nat → Option Stamp) (attempted : Nat → Prop) (j k : Nat) : Prop where
  le : j ≤ k
  changed : observed (j + 1) ≠ observed j
  quiet : ∀ i, j ≤ i → i ≤ k → observed (i + 1) = observed (j + 1)
  unsynced : ∀ i, j ≤ i → i < k → ¬ attempted i

theorem waits_self_iff : Waits observed attempted k k ↔ observed (k + 1) ≠ observed k := by
  refine ⟨Waits.changed, fun hchanged => ⟨Nat.le_refl _, hchanged, ?_, ?_⟩⟩
  · intro i hle hge
    rw [Nat.le_antisymm hge hle]
  · intro i hle hlt
    omega

theorem waits_zero_iff : Waits observed attempted j 0 ↔ j = 0 ∧ observed 1 ≠ observed 0 := by
  constructor
  · intro hwaits
    obtain rfl : j = 0 := Nat.le_zero.mp hwaits.le
    exact ⟨rfl, hwaits.changed⟩
  · rintro ⟨rfl, hchanged⟩
    exact waits_self_iff.mpr hchanged

/-- A poll that sees a new stamp lets only its own change wait. -/
theorem waits_succ_of_changed (hchanged : observed (k + 1 + 1) ≠ observed (k + 1)) :
    Waits observed attempted j (k + 1) ↔ j = k + 1 := by
  constructor
  · intro hwaits
    by_contra hne
    have hle : j ≤ k := by
      have := hwaits.le
      omega
    apply hchanged
    rw [hwaits.quiet (k + 1) (by omega) (Nat.le_refl _), hwaits.quiet k hle (by omega)]
  · rintro rfl
    exact waits_self_iff.mpr hchanged

/-- A poll that sees the stamp again lets a change wait unless the poll before it was the one to sync. -/
theorem waits_succ_of_same (hsame : observed (k + 1 + 1) = observed (k + 1)) :
    Waits observed attempted j (k + 1) ↔ Waits observed attempted j k ∧ ¬ attempted k := by
  constructor
  · intro hwaits
    have hle : j ≤ k := by
      have hne : j ≠ k + 1 := by
        rintro rfl
        exact hwaits.changed hsame
      have := hwaits.le
      omega
    refine ⟨⟨hle, hwaits.changed, ?_, ?_⟩, hwaits.unsynced k hle (by omega)⟩
    · intro i hji hik
      exact hwaits.quiet i hji (by omega)
    · intro i hji hik
      exact hwaits.unsynced i hji (by omega)
  · rintro ⟨hwaits, hattempted⟩
    refine ⟨Nat.le_succ_of_le hwaits.le, hwaits.changed, ?_, ?_⟩
    · intro i hji hik
      by_cases hlast : i = k + 1
      · rw [hlast, hsame, hwaits.quiet k hwaits.le (Nat.le_refl _)]
      · exact hwaits.quiet i hji (by omega)
    · intro i hji hik
      by_cases hlast : i = k
      · rwa [hlast]
      · exact hwaits.unsynced i hji (by omega)

/-- Which changes wait is a matter of the stamps and the attempts so far. -/
theorem Waits.congr (hobserved : ∀ i ≤ k + 1, observed i = other i)
    (hattempted : ∀ i < k, attempted i ↔ otherAttempted i)
    (hwaits : Waits observed attempted j k) : Waits other otherAttempted j k := by
  have hle := hwaits.le
  refine ⟨hle, ?_, ?_, ?_⟩
  · rw [← hobserved (j + 1) (by omega), ← hobserved j (by omega)]
    exact hwaits.changed
  · intro i hji hik
    rw [← hobserved (i + 1) (by omega), ← hobserved (j + 1) (by omega)]
    exact hwaits.quiet i hji hik
  · intro i hji hik
    rw [← hattempted i hik]
    exact hwaits.unsynced i hji hik

end Waits

/-! ## A session that is polled -/

/-- What a session can meet between two polls: others act, something is noted, or it is told to sync. -/
inductive Interlude (Time : Type) where
  | act (action : Action Time)
  | note (happenings : List (Happening Time))
  | sync

/-- When a session is polled, and what it meets before each poll. -/
structure Schedule (Time : Type) where
  before : Nat → List (Interlude Time)
  time : Nat → Time

namespace Session

variable {Time : Type}

def meanwhile (session : Session Time) : Interlude Time → Session Time
  | .act action => session.act action
  | .note happenings => session.record happenings
  | .sync => session.syncNow.1

/-- Two sessions wait for the same: they have one delay, and their watchers remember one stamp and one
moment. -/
structure WaitsLike (session later : Session Time) : Prop where
  delay : later.delay = session.delay
  seen : later.watcher.seen = session.watcher.seen
  pendingSince : later.watcher.pendingSince = session.watcher.pendingSince

theorem attempts_syncNow (session : Session Time) :
    session.syncNow.1.watcher.attempts = session.watcher.attempts + 1 := by
  obtain ⟨history, state, hsync⟩ := session.syncNow_eq
  rw [hsync]
  rfl

theorem waitsLike_meanwhile (session : Session Time) (interlude : Interlude Time) :
    session.WaitsLike (session.meanwhile interlude) := by
  cases interlude with
  | act action => cases action <;> exact ⟨rfl, rfl, rfl⟩
  | note happenings => exact ⟨rfl, rfl, rfl⟩
  | sync =>
    obtain ⟨history, state, hsync⟩ := session.syncNow_eq
    rw [meanwhile, hsync]
    exact ⟨rfl, rfl, rfl⟩

theorem waitsLike_foldl (session : Session Time) (interludes : List (Interlude Time)) :
    session.WaitsLike (interludes.foldl meanwhile session) := by
  induction interludes generalizing session with
  | nil => exact ⟨rfl, rfl, rfl⟩
  | cons interlude interludes ih =>
    have hfirst := session.waitsLike_meanwhile interlude
    have hrest := ih (session.meanwhile interlude)
    exact ⟨hrest.delay.trans hfirst.delay, hrest.seen.trans hfirst.seen,
      hrest.pendingSince.trans hfirst.pendingSince⟩

section

variable [Sub Time] [LT Time] [DecidableLT Time]

/-- A poll attempts a sync: apart from what its watcher remembers and what it notes, the session is the
one that a sync leaves. -/
def AttemptsAt (session : Session Time) (now : Time) : Prop :=
  ∃ watcher history, watcher.attempts = session.watcher.attempts ∧
    (session.poll now).1 = { session with watcher, history }.syncNow.1

theorem attemptsAt_iff (session : Session Time) (now : Time) :
    session.AttemptsAt now ↔
      (session.watcher.poll session.delay session.stamp? now).2 = true := by
  obtain ⟨history, hpoll⟩ := session.poll_eq now
  constructor
  · rintro ⟨watcher, history', hattempts, hsync⟩
    by_contra hdue
    -- without a sync the number of attempts would be the same
    have hsame : (session.poll now).1.watcher.attempts = session.watcher.attempts := by
      simp [hpoll, hdue]
    rw [hsync, attempts_syncNow] at hsame
    dsimp only at hsame
    omega
  · intro hdue
    refine ⟨(session.watcher.poll session.delay session.stamp? now).1, history, ?_, ?_⟩
    · exact Watcher.attempts_poll _ _ _ _
    · simpa only [hdue, if_true] using hpoll

/-- A poll counts the sync that it attempts, and no other. -/
theorem attempts_poll (session : Session Time) (now : Time) :
    (session.AttemptsAt now →
        (session.poll now).1.watcher.attempts = session.watcher.attempts + 1) ∧
      (¬ session.AttemptsAt now →
        (session.poll now).1.watcher.attempts = session.watcher.attempts) := by
  constructor
  · rintro ⟨watcher, history, hattempts, hsync⟩
    rw [hsync, attempts_syncNow, hattempts]
  · intro hattempts
    rw [attemptsAt_iff] at hattempts
    obtain ⟨history, hpoll⟩ := session.poll_eq now
    simp [hpoll, hattempts]

/-- What a poll leaves of a session's watcher and of its delay. -/
theorem waitsLike_poll (session : Session Time) (now : Time) :
    (session.poll now).1.delay = session.delay ∧
      (session.poll now).1.watcher.seen = session.stamp? ∧
      (session.poll now).1.watcher.pendingSince =
        (session.watcher.poll session.delay session.stamp? now).1.pendingSince := by
  obtain ⟨history, hpoll⟩ := session.poll_eq now
  rw [hpoll]
  by_cases hdue : (session.watcher.poll session.delay session.stamp? now).2
  · simp only [hdue, if_true]
    obtain ⟨history', state, hsync⟩ := ({ session with
      watcher := (session.watcher.poll session.delay session.stamp? now).1
      history } : Session Time).syncNow_eq
    simp [hsync, Watcher.attempt]
  · simp [hdue]

end

/-! ## All polls of a session -/

section

variable [Sub Time] [LinearOrder Time] (session : Session Time) (schedule : Schedule Time)

/-- The session when poll `k` begins. -/
def ready : Nat → Session Time
  | 0 => (schedule.before 0).foldl meanwhile session
  | k + 1 => (schedule.before (k + 1)).foldl meanwhile ((ready k).poll (schedule.time k)).1

/-- The session after poll `k`. -/
def polled (k : Nat) : Session Time :=
  ((session.ready schedule k).poll (schedule.time k)).1

def Attempted (k : Nat) : Prop :=
  (session.ready schedule k).AttemptsAt (schedule.time k)

/-- The stamps of the component, before all polls and as each poll observes it. -/
def observed : Nat → Option Int
  | 0 => session.stamp?
  | k + 1 => (session.ready schedule k).stamp?

variable {session schedule} {k : Nat}

theorem waitsLike_ready (k : Nat) :
    (session.polled schedule k).WaitsLike (session.ready schedule (k + 1)) :=
  waitsLike_foldl _ _

theorem delay_ready (k : Nat) : (session.ready schedule k).delay = session.delay := by
  induction k with
  | zero => exact (waitsLike_foldl _ _).delay
  | succ k ih =>
    rw [(waitsLike_ready k).delay, polled, (waitsLike_poll _ _).1, ih]

theorem seen_ready_succ (k : Nat) :
    (session.ready schedule (k + 1)).watcher.seen = session.observed schedule (k + 1) := by
  rw [(waitsLike_ready k).seen, polled, (waitsLike_poll _ _).2.1, observed]

/-- The session has not been polled yet: its watcher remembers the present stamp, and no change. -/
structure IsNew (session : Session Time) : Prop where
  seen : session.watcher.seen = session.stamp?
  pendingSince : session.watcher.pendingSince = none

/-- What the watcher remembers once poll `k` has looked at the component is the time of the poll whose
change waits. -/
theorem pendingSince_iff (hnew : session.IsNew) (k : Nat) (moment : Time) :
    ((session.ready schedule k).watcher.observe (session.ready schedule k).stamp?
        (schedule.time k)).pendingSince = some moment ↔
      ∃ j, Waits (session.observed schedule) (session.Attempted schedule) j k ∧
        moment = schedule.time j := by
  induction k generalizing moment with
  | zero =>
    have hready := session.waitsLike_foldl (schedule.before 0)
    simp only [waits_zero_iff, observed, Watcher.pendingSince_observe]
    rw [show (session.ready schedule 0).watcher.seen = session.stamp? from
        hready.seen.trans hnew.seen,
      show (session.ready schedule 0).watcher.pendingSince = none from
        hready.pendingSince.trans hnew.pendingSince]
    by_cases hsame : (session.ready schedule 0).stamp? = session.stamp?
    · simp [hsame]
    · simp [hsame, eq_comm]
  | succ k ih =>
    have hstamp : (session.ready schedule (k + 1)).stamp? =
        session.observed schedule (k + 1 + 1) := rfl
    rw [Watcher.pendingSince_observe, seen_ready_succ, hstamp]
    by_cases hsame : session.observed schedule (k + 1 + 1) = session.observed schedule (k + 1)
    · have hpending : (session.ready schedule (k + 1)).watcher.pendingSince =
          ((session.ready schedule k).watcher.poll (session.ready schedule k).delay
            (session.ready schedule k).stamp? (schedule.time k)).1.pendingSince := by
        rw [(waitsLike_ready k).pendingSince, polled, (waitsLike_poll _ _).2.2]
      have hattempted := (session.ready schedule k).attemptsAt_iff (schedule.time k)
      simp only [waits_succ_of_same hsame, hsame, if_true, hpending, Watcher.pendingSince_poll]
      simp only [Attempted, hattempted]
      by_cases hdue : ((session.ready schedule k).watcher.poll (session.ready schedule k).delay
          (session.ready schedule k).stamp? (schedule.time k)).2
      · simp [hdue]
      · simpa [hdue] using ih moment
    · simp [waits_succ_of_changed hsame, hsame, eq_comm]

/-- A poll attempts a sync exactly when a change waits and the delay has passed since the poll that was
the first to see it. -/
theorem attempted_iff (hnew : session.IsNew) (k : Nat) :
    session.Attempted schedule k ↔
      ∃ j, Waits (session.observed schedule) (session.Attempted schedule) j k ∧
        session.delay ≤ schedule.time k - schedule.time j := by
  rw [Attempted, attemptsAt_iff, Watcher.snd_poll, Watcher.isDue_iff, delay_ready]
  simp only [pendingSince_iff hnew, not_lt]
  constructor
  · rintro ⟨moment, ⟨j, hwaits, rfl⟩, hdelay⟩
    exact ⟨j, hwaits, hdelay⟩
  · rintro ⟨j, hwaits, hdelay⟩
    exact ⟨_, ⟨j, hwaits, rfl⟩, hdelay⟩

/-- Of two polls that attempt a sync the later one has a change of its own to sync. -/
theorem exists_waits_of_lt (hnew : session.IsNew) {l : Nat} (hlt : k < l)
    (hk : session.Attempted schedule k) (hl : session.Attempted schedule l) :
    ∃ j, k < j ∧ Waits (session.observed schedule) (session.Attempted schedule) j l ∧
      session.delay ≤ schedule.time l - schedule.time j := by
  obtain ⟨j, hwaits, hdelay⟩ := (attempted_iff hnew l).mp hl
  refine ⟨j, ?_, hwaits, hdelay⟩
  by_contra hle
  exact hwaits.unsynced k (by omega) hlt hk

/-- What is attempted is a matter of the delay, the stamps that were observed and the times of the
polls. -/
theorem attempted_congr {other : Session Time} {otherSchedule : Schedule Time}
    (hnew : session.IsNew) (hother : other.IsNew) (hdelay : other.delay = session.delay)
    (hobserved : ∀ i ≤ k + 1, other.observed otherSchedule i = session.observed schedule i)
    (htime : ∀ i ≤ k, otherSchedule.time i = schedule.time i) :
    other.Attempted otherSchedule k ↔ session.Attempted schedule k := by
  induction k using Nat.strongRecOn with
  | ind k ih =>
    have hearlier : ∀ i < k, other.Attempted otherSchedule i ↔ session.Attempted schedule i := by
      intro i hik
      apply ih i hik
      · intro n hn
        exact hobserved n (by omega)
      · intro n hn
        exact htime n (by omega)
    rw [attempted_iff hother, attempted_iff hnew, hdelay]
    constructor
    · rintro ⟨j, hwaits, hpassed⟩
      rw [htime k (Nat.le_refl k), htime j hwaits.le] at hpassed
      exact ⟨j, hwaits.congr hobserved hearlier, hpassed⟩
    · rintro ⟨j, hwaits, hpassed⟩
      rw [← htime k (Nat.le_refl k), ← htime j hwaits.le] at hpassed
      refine ⟨j, hwaits.congr ?_ ?_, hpassed⟩
      · intro i hi
        exact (hobserved i hi).symm
      · intro i hi
        exact (hearlier i hi).symm

end

/-- Which polls of a new session attempt a sync, whatever happens between them: those at which a change
waits that was first seen at least the delay ago. Each attempt is counted once, of two attempts the
later one has a change of its own to sync, and nothing but the delay, the stamps that were observed and
the times of the polls makes a difference, so that it does not matter how the earlier attempts ended. -/
theorem attempted_iff_waits [Sub Time] [LinearOrder Time] (parser : Syntax.Parser)
    (settings : SyncSettings) (source target : String) (interval delay : Time) (store : Store)
    (now : Time) (schedule : Schedule Time) (k : Nat) :
    let session := startWith parser settings source target interval delay store now
    let observed := session.observed schedule
    let attempted := session.Attempted schedule
    (attempted k ↔
        ∃ j, Waits observed attempted j k ∧ delay ≤ schedule.time k - schedule.time j) ∧
      (attempted k → (session.polled schedule k).watcher.attempts =
        (session.ready schedule k).watcher.attempts + 1) ∧
      (¬ attempted k → (session.polled schedule k).watcher.attempts =
        (session.ready schedule k).watcher.attempts) ∧
      (∀ l, k < l → attempted k → attempted l →
        ∃ j, k < j ∧ Waits observed attempted j l ∧
          delay ≤ schedule.time l - schedule.time j) ∧
      ∀ parser settings source target interval store now otherSchedule,
        let other := startWith parser settings source target interval delay store now
        (∀ i ≤ k + 1, other.observed otherSchedule i = observed i) →
          (∀ i ≤ k, otherSchedule.time i = schedule.time i) →
            (other.Attempted otherSchedule k ↔ attempted k) := by
  intro session observed attempted
  have hnew : session.IsNew := ⟨rfl, rfl⟩
  obtain ⟨hcounted, huncounted⟩ :=
    (session.ready schedule k).attempts_poll (schedule.time k)
  refine ⟨attempted_iff hnew k, hcounted, huncounted, ?_, ?_⟩
  · intro l hlt hk hl
    exact exists_waits_of_lt hnew hlt hk hl
  · intro parser settings source target interval store now otherSchedule other hobserved htime
    exact attempted_congr hnew ⟨rfl, rfl⟩ rfl hobserved htime

end Session

end PageGraft.Watch
