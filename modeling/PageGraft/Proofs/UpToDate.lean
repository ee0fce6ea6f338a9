import PageGraft.Proofs.Interleaving

/-!
# A session that rests is up to date

A watcher takes note of a stamp before it syncs, never after, so a change that comes between the two is
seen by the next poll. `Tracks` says how the stamp that was seen last, the change that waits and the last
sync hang together; every step keeps it, of the session and of the editor alike (`Tracks.step`).

When nothing waits and the stamp seen last is that of the component, the component had this stamp
already when the last sync began (`sighted_of_seen`). It has changed since then only if the stamp has
come back, which a watcher cannot see: a file is given the stamp of an earlier one, or is missing again
(`stale_of_returned`).
-/

namespace PageGraft.Watch.Watching

open PageGraft.File

variable {Time : Type} {task : Task} {delay : Time} {watching : Watching Time}

/-- A stamp is among those of some sights. -/
def IsSighted (sights : List Sight) (stamp : Option Int) : Prop :=
  ∃ sight ∈ sights, sight.stamp = stamp

theorem IsSighted.append_left {sights : List Sight} {stamp : Option Int}
    (hsighted : IsSighted sights stamp) (more : List Sight) : IsSighted (more ++ sights) stamp := by
  obtain ⟨sight, hmem, hstamp⟩ := hsighted
  exact ⟨sight, List.mem_append_right more hmem, hstamp⟩

/-! ## The invariant -/

/-- What holds of a session between any two steps. The notes end with the present sight of the
component, the stamp seen last was that of the component once, and unless a change waits for a sync this
was so when the last sync began. That sync has seen the component as it was at its begin or later. -/
structure Tracks (task : Task) (watching : Watching Time) : Prop where
  present : (watching.since ++ watching.known).head? = some (task.sight watching.store)
  seen : IsSighted (watching.since ++ watching.known) watching.watcher.seen
  settled : watching.stage ≠ .due → watching.watcher.isPending = false →
    IsSighted watching.known watching.watcher.seen
  looked : ∀ look ∈ watching.looks, look ∈ watching.since ∨ watching.known.head? = some look
  began : watching.stage = .due ∨ watching.stage = .syncing .findSource ∨ watching.looks ≠ []

theorem tracks_start (store : Store) : Tracks task (start task store : Watching Time) := by
  refine ⟨rfl, ⟨_, List.mem_singleton_self _, rfl⟩, ?_, ?_, .inl rfl⟩
  · intro hstage
    exact absurd rfl hstage
  · intro look hlook
    simp [start] at hlook

/-- The present sight is one of those since the last sync began, unless there are none. -/
theorem Tracks.present_cases (htracks : Tracks task watching) :
    task.sight watching.store ∈ watching.since ∨
      watching.since = [] ∧ watching.known.head? = some (task.sight watching.store) := by
  have hpresent := htracks.present
  cases hsince : watching.since with
  | nil =>
    rw [hsince] at hpresent
    exact .inr ⟨rfl, hpresent⟩
  | cons sight since =>
    rw [hsince] at hpresent
    obtain rfl : sight = task.sight watching.store := by simpa using hpresent
    exact .inl List.mem_cons_self

theorem Tracks.change (htracks : Tracks task watching) (store : Store) :
    Tracks task (watching.change task store) := by
  unfold Watching.change
  by_cases hsame : task.sight store = task.sight watching.store
  · simp only [hsame, if_true]
    exact ⟨hsame ▸ htracks.present, htracks.seen, htracks.settled, htracks.looked, htracks.began⟩
  · simp only [hsame, if_false]
    refine ⟨rfl, htracks.seen.append_left [_], htracks.settled, ?_, htracks.began⟩
    intro look hlook
    exact (htracks.looked look hlook).imp_left (List.mem_cons_of_mem _)

theorem Tracks.beginSync (htracks : Tracks task watching) : Tracks task watching.beginSync := by
  refine ⟨htracks.present, htracks.seen, fun _ _ => htracks.seen, ?_, .inr (.inl rfl)⟩
  intro look hlook
  simp [Watching.beginSync] at hlook

theorem Tracks.continueSync {attempt : Attempt} (htracks : Tracks task watching)
    (hstage : watching.stage = .syncing attempt) :
    Tracks task (watching.continueSync task attempt) := by
  unfold Watching.continueSync
  rcases task.advance watching.store attempt with ⟨store, continuation⟩
  apply Tracks.change
  refine ⟨htracks.present, htracks.seen, ?_, ?_, .inr (.inr ?_)⟩
  · intro _
    exact htracks.settled (by simp [hstage])
  · intro look hlook
    by_cases hlooks : attempt.looksAtSource
    · rw [if_pos hlooks] at hlook
      rcases List.mem_cons.mp hlook with rfl | hearlier
      · exact htracks.present_cases.imp_right And.right
      · exact htracks.looked look hearlier
    · rw [if_neg hlooks] at hlook
      exact htracks.looked look hlook
  · by_cases hlooks : attempt.looksAtSource
    · simp [hlooks]
    · rcases htracks.began with hdue | hfirst | hlooked
      · simp [hstage] at hdue
      · obtain rfl : attempt = .findSource := by simpa [hstage] using hfirst
        exact absurd rfl hlooks
      · simpa [hlooks] using hlooked

/-- A poll takes note of the stamp, and a stamp that is new makes a change wait. -/
theorem Tracks.observe (htracks : Tracks task watching) (hstage : watching.stage = .resting)
    (now : Time) :
    Tracks task { watching with
      watcher := watching.watcher.observe (task.sight watching.store).stamp now
      stage := .noticed now } := by
  have hlooked : watching.looks ≠ [] := by simpa [hstage] using htracks.began
  by_cases hsame : (task.sight watching.store).stamp = watching.watcher.seen
  · simp only [hsame, Watcher.observe_seen]
    refine ⟨htracks.present, htracks.seen, fun _ => htracks.settled (by simp [hstage]),
      htracks.looked, .inr (.inr hlooked)⟩
  · refine ⟨htracks.present, ?_, ?_, htracks.looked, .inr (.inr hlooked)⟩
    · rw [Watcher.seen_observe]
      exact ⟨_, List.mem_of_mem_head? htracks.present, rfl⟩
    · intro _ hpending
      simp [Watcher.observe, hsame, Watcher.isPending] at hpending

section

variable [Sub Time] [LT Time] [DecidableLT Time]

theorem Tracks.proceed (htracks : Tracks task watching) (now : Time) :
    Tracks task (watching.proceed task delay now) := by
  unfold Watching.proceed
  split
  · rename_i hstage
    exact htracks.observe hstage now
  · rename_i hstage
    have hlooked : watching.looks ≠ [] := by simpa [hstage] using htracks.began
    split
    · exact ⟨htracks.present, htracks.seen, fun hnot => absurd rfl hnot, htracks.looked, .inl rfl⟩
    · exact ⟨htracks.present, htracks.seen, fun _ => htracks.settled (by simp [hstage]),
        htracks.looked, .inr (.inr hlooked)⟩
  · exact htracks.beginSync
  · rename_i hstage
    exact htracks.continueSync hstage

theorem Tracks.step (htracks : Tracks task watching) (move : Move Time) :
    Tracks task (watching.step task delay move) := by
  cases move with
  | edit edit => exact htracks.change _
  | proceed now => exact htracks.proceed now

theorem Tracks.run (htracks : Tracks task watching) (moves : List (Move Time)) :
    Tracks task (watching.run task delay moves) := by
  induction moves generalizing watching with
  | nil => exact htracks
  | cons move moves ih => exact ih (htracks.step move)

end

/-! ## Sessions at rest -/

/-- The session is between two polls, no change waits, and the stamp seen last is the present one. -/
structure IsQuiet (task : Task) (watching : Watching Time) : Prop where
  stage : watching.stage = .resting
  pending : watching.watcher.isPending = false
  seen : watching.watcher.seen = (task.sight watching.store).stamp

/-- The last sync began after the last change of the component, and whenever it looked at the component
it saw what is there now. -/
structure IsUpToDate (task : Task) (watching : Watching Time) : Prop where
  since : watching.since = []
  looked : watching.looks ≠ []
  looks : ∀ look ∈ watching.looks, look = task.sight watching.store

/-- The component has never had two contents with one stamp. -/
def HasOwnStamps (watching : Watching Time) : Prop :=
  (watching.since ++ watching.known).Pairwise fun sight other =>
    sight.stamp = other.stamp → sight.content = other.content

section

instance {sights : List Sight} {stamp : Option Int} : Decidable (IsSighted sights stamp) :=
  inferInstanceAs (Decidable (∃ sight ∈ sights, sight.stamp = stamp))

instance (stage : Stage Time) : Decidable (stage = .resting) :=
  match stage with
  | .resting => isTrue rfl
  | .noticed _ | .due | .syncing _ => isFalse nofun

instance : Decidable (IsQuiet task watching) :=
  decidable_of_iff
    (watching.stage = .resting ∧ watching.watcher.isPending = false ∧
      watching.watcher.seen = (task.sight watching.store).stamp)
    ⟨fun h => ⟨h.1, h.2.1, h.2.2⟩, fun h => ⟨h.stage, h.pending, h.seen⟩⟩

instance : Decidable (IsUpToDate task watching) :=
  decidable_of_iff
    (watching.since = [] ∧ watching.looks ≠ [] ∧
      ∀ look ∈ watching.looks, look = task.sight watching.store)
    ⟨fun h => ⟨h.1, h.2.1, h.2.2⟩, fun h => ⟨h.since, h.looked, h.looks⟩⟩

instance : Decidable (HasOwnStamps watching) :=
  inferInstanceAs (Decidable (List.Pairwise _ _))

end

/-- Where contents have stamps of their own, the stamp of the present sight tells its content. -/
theorem Tracks.mem_known (htracks : Tracks task watching) (hown : HasOwnStamps watching)
    (hsighted : IsSighted watching.known (task.sight watching.store).stamp) :
    task.sight watching.store ∈ watching.known := by
  obtain ⟨sight, hmem, hstamp⟩ := hsighted
  suffices hcontent : (task.sight watching.store).content = sight.content by
    have hsame : task.sight watching.store = sight := Sight.ext hstamp.symm hcontent
    rwa [hsame]
  obtain ⟨earlier, hnotes⟩ : ∃ earlier,
      watching.since ++ watching.known = task.sight watching.store :: earlier :=
    List.head?_eq_some_iff.mp htracks.present
  have hnoted : sight ∈ watching.since ++ watching.known := List.mem_append_right _ hmem
  rw [HasOwnStamps, hnotes] at hown
  rw [hnotes] at hnoted
  rcases List.mem_cons.mp hnoted with rfl | hearlier
  · rfl
  · exact List.rel_of_pairwise_cons hown hearlier hstamp.symm

variable [Sub Time] [LT Time] [DecidableLT Time]

/-- A quiet session began its last sync when the component had had its present stamp already, and so,
where contents have stamps of their own, its present content. Unless the component had this stamp before
its last change, too, the session is up to date. -/
theorem sighted_of_seen (task : Task) (delay : Time) (store : Store) (moves : List (Move Time))
    (hquiet : IsQuiet task ((start task store).run task delay moves)) :
    let watching := (start task store).run task delay moves
    IsSighted watching.known (task.sight watching.store).stamp ∧
      (watching.HasOwnStamps → task.sight watching.store ∈ watching.known) ∧
      (¬ IsSighted (watching.since ++ watching.known).tail (task.sight watching.store).stamp →
        watching.IsUpToDate task) := by
  intro watching
  have htracks : Tracks task watching := (tracks_start store).run moves
  have hknown : IsSighted watching.known (task.sight watching.store).stamp := by
    rw [← hquiet.seen]
    exact htracks.settled (by simp [watching, hquiet.stage]) hquiet.pending
  refine ⟨hknown, fun hown => htracks.mem_known hown hknown, ?_⟩
  intro hnew
  have hsince : watching.since = [] := by
    cases hsince : watching.since with
    | nil => rfl
    | cons sight since =>
      -- the sights before the last sync would be among the earlier ones
      rw [hsince, List.cons_append, List.tail_cons] at hnew
      exact absurd (hknown.append_left since) hnew
  refine ⟨hsince, ?_, ?_⟩
  · simpa [watching, hquiet.stage] using htracks.began
  · intro look hlook
    rcases htracks.looked look hlook with hlater | hhead
    · simp [hsince] at hlater
    · have hpresent := htracks.present
      rw [hsince, List.nil_append, hhead] at hpresent
      exact Option.some.inj hpresent

/-- The tree of a component that consists of newlines only, and the task of grafting it. -/
def blankTask : Task where
  parser source :=
    let stop := { octet := source.text.length, row := source.text.length }
    .ok { type := "program", start := stop, stop }
  settings := {}
  source := "page.js"
  target := "index.html"

/-- A component and a page of one newline each. -/
def blankStore : Store :=
  { files := [(["page.js"], ⟨[0x0A], 1000⟩), (["index.html"], ⟨[0x0A], 0⟩)] }

/-- A component of two newlines is saved, later than the first one. -/
def longerSaved : Move Int := .edit (.write "page.js" [0x0A, 0x0A] (some 2000))

/-- A whole sync: it begins, looks for both files, reads both and writes. -/
def syncMoves : List (Move Int) := List.replicate 6 (.proceed 0)

/-- The component is saved while the first sync reads it. The next poll takes note of that, and the poll
after the delay syncs again. -/
def savedMeanwhile : List (Move Int) :=
  [.proceed 0, .proceed 0, longerSaved] ++ List.replicate 4 (.proceed 0) ++
    [.proceed 10, .proceed 10, .proceed 11, .proceed 11] ++ syncMoves

theorem sighted_of_seen_savedMeanwhile :
    let watching := (start blankTask blankStore).run blankTask 1 savedMeanwhile
    IsQuiet blankTask watching ∧
      IsSighted watching.known (blankTask.sight watching.store).stamp ∧
      blankTask.sight watching.store ∈ watching.known ∧ watching.IsUpToDate blankTask := by
  intro watching
  have hquiet : IsQuiet blankTask watching := by decide +kernel
  have hown : HasOwnStamps watching := by decide +kernel
  have hnew : ¬ IsSighted (watching.since ++ watching.known).tail
      (blankTask.sight watching.store).stamp := by decide +kernel
  obtain ⟨hstamp, hcontent, hupToDate⟩ :=
    sighted_of_seen blankTask 1 blankStore savedMeanwhile hquiet
  exact ⟨hquiet, hstamp, hcontent hown, hupToDate hnew⟩

/-- A session whose component changes after the first sync and comes back with its old stamp. -/
def returned : Watching Int :=
  (start blankTask blankStore).run blankTask 1
    (longerSaved :: syncMoves ++ [.edit (.write "page.js" [0x0A] (some 1000))])

/-- A session that begins without a component; it is deleted once it has been synced. -/
def deleted : Watching Int :=
  (start blankTask (blankStore.apply (.delete "page.js"))).run blankTask 1
    (longerSaved :: syncMoves ++ [.edit (.delete "page.js")])

/-- A quiet session whose contents have stamps of their own, and yet all that the last sync saw of the
component is another content than the present one. -/
structure IsStale (task : Task) (watching : Watching Time) : Prop where
  quiet : IsQuiet task watching
  own : HasOwnStamps watching
  changed : ¬ IsUpToDate task watching
  looked : watching.looks ≠ []
  looks : ∀ look ∈ watching.looks, look.content ≠ (task.sight watching.store).content

theorem stale_of_returned : IsStale blankTask returned ∧ IsStale blankTask deleted := by
  refine ⟨⟨?_, ?_, ?_, ?_, ?_⟩, ⟨?_, ?_, ?_, ?_, ?_⟩⟩
  all_goals decide +kernel

end PageGraft.Watch.Watching
