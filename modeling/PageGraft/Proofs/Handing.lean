import PageGraft.Log.Loggers
import PageGraft.Proofs.Keeping

/-!
# What handing records on changes

Handlers give records to one another, and keep some back. While they do, a handler stays what it is but for
the records that it keeps back (`Follows`), and nothing about the loggers changes (`LoggersFrom`). Records can
only be refused by handlers of which this can be told beforehand (`Refuses`), so that nothing fails where
there are none of these.
-/

namespace PageGraft.Log

open PageGraft.Data

variable {before middle after handler : Handler} {fault : WriteFault} {start : List Handler} {place : Nat}
  {time : Moment}

/-! ## One handler -/

/-- A handler before and after records are handed on: the records that it keeps back can be others, or it can
have ended. -/
structure Follows (before after : Handler) : Prop where
  same : { after with backlog := before.backlog } = before
  backlog : ∀ backlog ∈ after.backlog, ∃ old ∈ before.backlog, { backlog with records := old.records } = old

/-- A handler refuses records: those of the plain kind take none, and a bound without an order cannot be
compared with. -/
inductive Refuses (handler : Handler) : WriteFault → Prop
  | writesNothing (hkind : handler.kind = .plain) : Refuses handler .writesNothing
  | unordered {backlog : Backlog} {kind : String} (hbacklog : handler.backlog = some backlog)
      (hbound : backlog.capacity = .unordered kind ∨ backlog.threshold = .unordered kind) :
      Refuses handler (.unordered kind)

theorem Follows.refl (handler : Handler) : Follows handler handler :=
  ⟨rfl, fun backlog hbacklog => ⟨backlog, hbacklog, rfl⟩⟩

theorem Follows.trans (hfirst : Follows before middle) (hsecond : Follows middle after) :
    Follows before after := by
  constructor
  · rw [← hfirst.same, ← hsecond.same]
  · intro backlog hbacklog
    obtain ⟨old, hold, hsame⟩ := hsecond.backlog backlog hbacklog
    obtain ⟨older, holder, holdSame⟩ := hfirst.backlog old hold
    refine ⟨older, holder, ?_⟩
    rw [← holdSame, ← hsame]

/-- A handler that keeps nothing back stays as it is. -/
theorem Follows.eq_of_none (hfollows : Follows before after) (hbacklog : before.backlog = none) :
    after = before := by
  have hnone : after.backlog = none := by
    rw [Option.eq_none_iff_forall_not_mem]
    intro backlog hmem
    obtain ⟨old, hold, -⟩ := hfollows.backlog backlog hmem
    rw [hbacklog] at hold
    exact absurd hold (by nofun)
  rw [← hfollows.same, hbacklog, ← hnone]

theorem Follows.refuses (hfollows : Follows before after) (hrefuses : Refuses after fault) :
    Refuses before fault := by
  cases hrefuses with
  | writesNothing hkind =>
    refine .writesNothing ?_
    rw [← hfollows.same]
    exact hkind
  | unordered hbacklog hbound =>
    obtain ⟨old, hold, hsame⟩ := hfollows.backlog _ hbacklog
    refine .unordered hold ?_
    rw [← hsame]
    exact hbound

theorem follows_emptied (handler : Handler) : Follows handler handler.emptied := by
  refine ⟨rfl, fun backlog hbacklog => ?_⟩
  obtain ⟨old, hold, rfl⟩ := Option.map_eq_some_iff.mp hbacklog
  exact ⟨old, hold, rfl⟩

theorem follows_keeping (handler : Handler) (record : Record) : Follows handler (handler.keeping record) := by
  refine ⟨rfl, fun backlog hbacklog => ?_⟩
  obtain ⟨old, hold, rfl⟩ := Option.map_eq_some_iff.mp hbacklog
  exact ⟨old, hold, rfl⟩

theorem follows_ended (handler : Handler) : Follows handler { handler with backlog := none } :=
  ⟨rfl, nofun⟩

/-- Whether records are given on can only fail for a bound that has no order. -/
theorem refuses_of_isDue {backlog : Backlog} {record : Record} (hbacklog : handler.backlog = some backlog)
    (hdue : backlog.isDue record = .error fault) : Refuses handler fault := by
  have hbound : ∀ (bound : Bound) (number : Int), bound.isReached number = .error fault →
      ∃ kind, fault = .unordered kind ∧ bound = .unordered kind := by
    intro bound number hreached
    cases bound with
    | unordered kind => exact ⟨kind, (Except.error.inj hreached).symm, rfl⟩
    | _ => exact absurd hreached (by nofun)
  rcases except_bind_eq_error.mp hdue with hcapacity | ⟨reached, -, hrest⟩
  · obtain ⟨kind, rfl, hkind⟩ := hbound _ _ hcapacity
    exact .unordered hbacklog (.inl hkind)
  · cases reached with
    | true => exact absurd hrest (by nofun)
    | false =>
      obtain ⟨kind, rfl, hkind⟩ := hbound _ _ hrest
      exact .unordered hbacklog (.inr hkind)

/-! ## All handlers -/

/-- One of some handlers refuses records. -/
def Refused (start : List Handler) (fault : WriteFault) : Prop :=
  ∃ handler ∈ start, Refuses handler fault

/-- The handlers are those that there were at the start, each at its place. -/
def HandlersFrom (start : List Handler) (state : List Handler × List Output) : Prop :=
  ∀ place : Nat, Option.Rel Follows start[place]? state.1[place]?

theorem handlersFrom_self (handlers : List Handler) (outputs : List Output) :
    HandlersFrom handlers (handlers, outputs) := by
  intro place
  show Option.Rel Follows handlers[place]? handlers[place]?
  cases handlers[place]? with
  | none => exact .none
  | some handler => exact .some (.refl handler)

section

variable {state : List Handler × List Output} {outputs : List Output}

theorem HandlersFrom.exists_before (hfrom : HandlersFrom start state) (hafter : state.1[place]? = some after) :
    ∃ before, start[place]? = some before ∧ Follows before after := by
  have hrel := hfrom place
  rw [hafter] at hrel
  generalize start[place]? = found at hrel
  cases hrel with
  | some hfollows => exact ⟨_, rfl, hfollows⟩

theorem HandlersFrom.exists_after (hfrom : HandlersFrom start state) (hbefore : start[place]? = some before) :
    ∃ after, state.1[place]? = some after ∧ Follows before after := by
  have hrel := hfrom place
  rw [hbefore] at hrel
  generalize state.1[place]? = found at hrel
  cases hrel with
  | some hfollows => exact ⟨_, rfl, hfollows⟩

/-- A handler that refuses records did so at the start. -/
theorem HandlersFrom.refused (hfrom : HandlersFrom start state) (hrefused : Refused state.1 fault) :
    Refused start fault := by
  obtain ⟨handler, hmem, hrefuses⟩ := hrefused
  obtain ⟨place, hplace⟩ := List.mem_iff_getElem?.mp hmem
  obtain ⟨before, hbefore, hfollows⟩ := hfrom.exists_before hplace
  exact ⟨before, List.mem_of_getElem? hbefore, hfollows.refuses hrefuses⟩

/-- A handler can be put in the place of one that it follows. -/
theorem HandlersFrom.set (hfrom : HandlersFrom start state) (hbefore : start[place]? = some before)
    (hfollows : Follows before after) : HandlersFrom start (state.1.set place after, outputs) := by
  obtain ⟨old, hold, -⟩ := hfrom.exists_after hbefore
  intro other
  show Option.Rel Follows start[other]? (state.1.set place after)[other]?
  by_cases hother : place = other
  · subst hother
    obtain ⟨hlength, -⟩ := List.getElem?_eq_some_iff.mp hold
    rw [hbefore, List.getElem?_set_self hlength]
    exact .some hfollows
  · rw [List.getElem?_set_ne hother]
    exact hfrom other

end

theorem keeps_set (hbefore : start[place]? = some before) (hfollows : Follows before after) :
    KeepsUnless (Refused start) (HandlersFrom start)
      (modify fun (handlers, outputs) => (handlers.set place after, outputs) : Writing PUnit) :=
  keeps_modify fun _ hfrom => hfrom.set hbefore hfollows

theorem keeps_hand {fuel : Nat} (record : Record) :
    KeepsUnless (Refused start) (HandlersFrom start) (hand time fuel place record) := by
  induction fuel generalizing place record with
  | zero => exact keeps_pure _
  | succ fuel ih =>
    refine keeps_get_bind fun state hfrom => ?_
    split
    · exact keeps_pure _
    · rename_i found hfound
      obtain ⟨before, hbefore, hfollows⟩ := hfrom.exists_before hfound
      have hrefused : ∀ fault, Refuses found fault → Refused start fault := fun fault hrefuses =>
        ⟨before, List.mem_of_getElem? hbefore, hfollows.refuses hrefuses⟩
      split
      · split
        · split
          · rename_i hkind
            exact KeepsUnless.bind (keeps_throw (hrefused _ (.writesNothing hkind))) fun _ =>
              keeps_modify fun _ hfrom => hfrom
          · exact keeps_modify fun _ hfrom => hfrom
        · rename_i backlog hbacklog
          refine KeepsUnless.bind (keeps_liftM fun fault hdue => ?_) fun due => ?_
          · exact hrefused fault (refuses_of_isDue hbacklog hdue)
          · split
            · refine (keeps_set hbefore (hfollows.trans (follows_emptied found))).bind fun _ => ?_
              split
              · exact keeps_forM fun record _ => ih record
              · exact keeps_pure _
            · exact keeps_set hbefore (hfollows.trans (follows_keeping found record))
      · exact keeps_pure _

theorem keeps_endHandlers {places : List Nat} :
    KeepsUnless (Refused start) (HandlersFrom start) (endHandlers time places) := by
  refine keeps_forM fun place _ => ?_
  refine keeps_get_bind fun state hfrom => ?_
  split
  · exact keeps_pure _
  · rename_i found hfound
    obtain ⟨before, hbefore, hfollows⟩ := hfrom.exists_before hfound
    refine (keeps_set hbefore (hfollows.trans (follows_ended found))).bind fun _ => ?_
    split
    · exact keeps_pure _
    · split
      · exact keeps_forM fun record _ => keeps_hand record
      · exact keeps_pure _

/-! ## Loggers -/

/-- The loggers are those that there were at the start. -/
structure LoggersFrom (before : Loggers) (state : Loggers × List Output) : Prop where
  root : state.1.root = before.root
  named : state.1.named = before.named
  handlers : HandlersFrom before.handlers (state.1.handlers, state.2)

namespace Logging

variable {loggers : Loggers}

theorem keeps_onHandlers {change : Writing Unit}
    (hchange : KeepsUnless (Refused loggers.handlers) (HandlersFrom loggers.handlers) change) :
    KeepsUnless (Refused loggers.handlers) (LoggersFrom loggers) (onHandlers change) := by
  have hrun : ∀ state : Loggers × List Output, (onHandlers change).run state =
      ((change.run (state.1.handlers, state.2)).1,
        { state.1 with handlers := (change.run (state.1.handlers, state.2)).2.1 },
        (change.run (state.1.handlers, state.2)).2.2) := fun _ => rfl
  constructor
  · intro state value final hok hfrom
    rw [hrun] at hok
    obtain ⟨hvalue, rfl⟩ := Prod.mk.inj hok
    exact ⟨hfrom.root, hfrom.named, hchange.of_ok (Prod.ext hvalue rfl) hfrom.handlers⟩
  · intro state fault final herror hfrom
    rw [hrun] at herror
    exact hchange.of_error (Prod.ext (Prod.mk.inj herror).1 rfl) hfrom.handlers

/-- Writing a record changes nothing about the loggers, and fails only where a handler refuses records. -/
theorem keeps_write (record : Record) :
    KeepsUnless (Refused loggers.handlers) (LoggersFrom loggers) (write time record) := by
  refine keeps_get_bind fun state hfrom => ?_
  dsimp only
  generalize (if record.name = "" then "root" else record.name) = name
  split
  · split
    · split
      · exact keeps_modify fun _ hfrom => ⟨hfrom.root, hfrom.named, hfrom.handlers⟩
      · exact keeps_pure _
    · refine keeps_onHandlers (keeps_forM fun place _ => ?_)
      split
      · exact keeps_hand _
      · exact keeps_pure _
  · exact keeps_pure _

end Logging

end PageGraft.Log
