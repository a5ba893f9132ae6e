import OpenModelOps.MetalWorkers

namespace OpenModelOps.MetalLoss
open MetalWorkers RunHistory

variable {ρ ξ : Type} {slots limit : Nat} {s next : State ρ ξ slots} {event : Event ρ ξ slots}

def Kept (s : State ρ ξ slots) (item : WorkItem) : Prop :=
  item ∈ s.queue ∨ (∃ slot, (s.workers slot).held = some item) ∨ s.futures item.ticket ≠ .pending

def NoneLost (s : State ρ ξ slots) : Prop := ∀ item ∈ s.accepted, Kept s item

def Orphans (s : State ρ ξ slots) : Event ρ ξ slots → Prop
  | .interrupt slot => ∃ item, (s.workers slot).held = some item ∧ s.futures item.ticket = .pending
  | _ => False

instance decidePending : (future : Future ρ ξ) → Decidable (future = .pending)
  | .pending => .isTrue rfl
  | .resolved _ => .isFalse fun same => by cases same
  | .failed _ => .isFalse fun same => by cases same
  | .cancelled => .isFalse fun same => by cases same

instance decideOrphans (s : State ρ ξ slots) : (event : Event ρ ξ slots) → Decidable (Orphans s event)
  | .interrupt slot => match holds : (s.workers slot).held with
    | some item => decidable_of_iff (s.futures item.ticket = .pending)
        ⟨fun pending => ⟨item,holds,pending⟩,fun ⟨_,same,pending⟩ => by cases holds.symm.trans same; exact pending⟩
    | none => .isFalse fun ⟨_,same,_⟩ => by cases holds.symm.trans same
  | .submit .. => .isFalse id
  | .expire _ => .isFalse id
  | .take _ => .isFalse id
  | .finish .. => .isFalse id
  | .absorb _ => .isFalse id
  | .start => .isFalse id
  | .stop => .isFalse id
  | .gathered => .isFalse id

def Spares (s : State ρ ξ slots) (event : Event ρ ξ slots) : Prop := ¬ Orphans s event

instance (s : State ρ ξ slots) (event : Event ρ ξ slots) : Decidable (Spares s event) :=
  inferInstanceAs (Decidable (¬ _))

theorem settle_done {future : Future ρ ξ} (still : Open future) (outcome : Outcome ρ ξ) :
    (settle future outcome).1 ≠ .pending := by
  rcases still with rfl | rfl
  · cases outcome with
    | returned value => intro same; cases same
    | raised exception => intro same; cases same
  · intro same; cases same

theorem update_done {futures : Nat → Future ρ ξ} {future : Future ρ ξ} (done : futures other ≠ .pending)
    (enters : future ≠ .pending) : Function.update futures ticket future other ≠ .pending := by
  by_cases here : other = ticket
  · rw [here,Function.update_self]
    exact enters
  · rw [Function.update_of_ne here]
    exact done

theorem holds_update {workers : Fin slots → Worker} {slot other : Fin slots} {item : WorkItem} {worker : Worker}
    (holds : (workers other).held = some item) (carries : other = slot → worker.held = some item) :
    (Function.update workers slot worker other).held = some item := by
  by_cases here : other = slot
  · rw [here,Function.update_self]
    exact carries here
  · rw [Function.update_of_ne here]
    exact holds

theorem submitted_kept (kept : NoneLost s) (item : WorkItem) : NoneLost {s with
    queue := s.queue ++ [item], unfinished := s.unfinished + 1, accepted := s.accepted ++ [item]} := by
  intro other member
  rcases List.mem_append.mp member with old | last
  · exact (kept other old).imp_left fun waiting => List.mem_append_left _ waiting
  · exact .inl (List.mem_append_right _ last)

theorem expired_kept (kept : NoneLost s) (ticket : Nat) :
    NoneLost {s with futures := Function.update s.futures ticket .cancelled} := by
  intro other member
  refine (kept other member).imp_right fun later => later.imp_right fun done => ?_
  exact update_done done fun same => by cases same

theorem taken_kept (kept : NoneLost s) {slot : Fin slots} (vacant : s.workers slot = .waiting false)
    (queued : s.queue = item :: rest) : NoneLost {s with
      queue := rest, active := s.active + 1
      workers := Function.update s.workers slot (.generating item false), started := s.started ++ [item]} := by
  intro other member
  rcases kept other member with waiting | ⟨holder,holds⟩ | done
  · rw [queued] at waiting
    rcases List.mem_cons.mp waiting with rfl | waiting
    · exact .inr (.inl ⟨slot,by dsimp only; rw [Function.update_self]; rfl⟩)
    · exact .inl waiting
  · refine .inr (.inl ⟨holder,holds_update holds fun here => ?_⟩)
    rw [here,vacant] at holds
    cases holds
  · exact .inr (.inr done)

theorem dropped_kept (kept : NoneLost s) (queued : s.queue = item :: rest)
    (cancelled : s.futures item.ticket = .cancelled) :
    NoneLost {s with queue := rest, unfinished := s.unfinished - 1} := by
  intro other member
  rcases kept other member with waiting | later
  · rw [queued] at waiting
    rcases List.mem_cons.mp waiting with rfl | waiting
    · refine .inr (.inr ?_)
      change s.futures other.ticket ≠ .pending
      rw [cancelled]
      exact fun same => by cases same
    · exact .inl waiting
  · exact .inr later

theorem left_kept (kept : NoneLost s) {slot : Fin slots} (working : (s.workers slot).held = some item)
    {futures : Nat → Future ρ ξ} (still : ∀ ticket, s.futures ticket ≠ .pending → futures ticket ≠ .pending)
    (answered : futures item.ticket ≠ .pending) (worker : Worker) (outcomes : List (WorkItem × Outcome ρ ξ))
    (active unfinished : Int) : NoneLost {s with
      futures := futures, outcomes := outcomes, active := active, unfinished := unfinished
      workers := Function.update s.workers slot worker} := by
  intro other member
  rcases kept other member with waiting | ⟨holder,holds⟩ | done
  · exact .inl waiting
  · by_cases here : holder = slot
    · rw [here,working] at holds
      cases Option.some.inj holds
      exact .inr (.inr answered)
    · exact .inr (.inl ⟨holder,holds_update holds fun same => absurd same here⟩)
  · exact .inr (.inr (still _ done))

theorem replaced_kept (kept : NoneLost s) {workers : Fin slots → Worker}
    (same : ∀ slot, (workers slot).held = (s.workers slot).held) (phase : Phase) :
    NoneLost {s with workers := workers, phase := phase} := by
  intro other member
  refine (kept other member).imp_right fun later => later.imp_left fun ⟨holder,holds⟩ => ⟨holder,?_⟩
  exact (same holder).trans holds

theorem moves_kept (sound : Sound limit s) (kept : NoneLost s) (spared : Spares s event)
    (moves : Moves limit s event next) : NoneLost next := by
  cases moves with
  | refused | late | present | absent | gathered => exact kept
  | submitted room numbered => exact submitted_kept kept _
  | expired issued pending => exact expired_kept kept _
  | dropped vacant queued cancelled => exact dropped_kept kept queued cancelled
  | began vacant queued pending => exact taken_kept kept vacant queued
  | @finished slot item flag outcome working still =>
    have settled := settle_done still outcome
    refine left_kept kept (by rw [working]; rfl) (fun ticket done => update_done done settled) ?_ _ _ _ _
    rw [Function.update_self]
    exact settled
  | absorbed working => exact replaced_kept kept (held_same (by rw [working]; rfl)) s.phase
  | vacated vacant => exact replaced_kept kept (held_same (by rw [vacant]; rfl)) s.phase
  | @interrupted slot item working =>
    have done : s.futures item.ticket ≠ .pending := fun pending =>
      spared ⟨item,by rw [working]; rfl,pending⟩
    exact left_kept kept (by rw [working]; rfl) (fun _ still => still) done _ _ _ _
  | started stopped => exact replaced_kept kept (fun slot => by rw [sound.idle stopped slot]; rfl) _
  | stopping running => exact replaced_kept kept (fun slot => held_cancel _) _

-- No other worker has the item, it left the queue when it was taken, and
-- nobody is left to settle its future.
theorem orphan_lost (sound : Sound limit s) (orphans : Orphans s event) (moves : Moves limit s event next) :
    ¬ NoneLost next := by
  intro kept
  cases moves with
  | vacated vacant =>
    obtain ⟨item,holds,_⟩ := orphans
    rw [vacant] at holds
    cases holds
  | @interrupted slot _ _ =>
    obtain ⟨item,holds,pending⟩ := orphans
    have begun := (sound.held slot item holds).1
    rcases kept item (sound.known item (.inr begun)) with waiting | ⟨other,still⟩ | done
    · have apart := List.disjoint_of_nodup_append sound.once (List.mem_map_of_mem waiting)
      exact apart (List.mem_map_of_mem begun)
    · rcases updated_read still with ⟨_,empty⟩ | ⟨different,still⟩
      · cases empty
      · exact different (sound.apart other slot item still holds)
    · exact done pending
  | _ => exact orphans

theorem none_lost_iff (ρ ξ : Type) (scheduler : Scheduler) (events : List (Event ρ ξ scheduler.slots))
    (s : State ρ ξ scheduler.slots)
    (path : Runs (step scheduler.queueLimit) (initial ρ ξ scheduler.slots) events s) :
    Always (step scheduler.queueLimit) NoneLost (initial ρ ξ scheduler.slots) events ↔
      Throughout (step scheduler.queueLimit) Spares (initial ρ ξ scheduler.slots) events := by
  refine path.always_exact step_sound ?_ (initial_sound ρ ξ scheduler.slots scheduler.queueLimit)
    fun item member => absurd member List.not_mem_nil
  intro before event next sound kept taken
  have moves := step_moves sound taken
  exact ⟨fun still orphans => orphan_lost sound orphans moves still,fun spared => moves_kept sound kept spared moves⟩

def singleSlot : Scheduler := ⟨1,1,by decide⟩

def onlySlot : Fin 1 := ⟨0,by decide⟩

def shutdown : List (Event String String 1) :=
  [.start,.submit "prompt" 8,.take onlySlot,.stop,.interrupt onlySlot,.gathered]

theorem shutdown_loses : ¬ ∀ (ρ ξ : Type) (scheduler : Scheduler) (events : List (Event ρ ξ scheduler.slots))
    (s : State ρ ξ scheduler.slots),
    Runs (step scheduler.queueLimit) (initial ρ ξ scheduler.slots) events s → NoneLost s := by
  intro holds
  have path : Runs (step singleSlot.queueLimit) (initial String String singleSlot.slots) shutdown _ :=
    consume_exact.mp rfl
  rcases holds String String singleSlot shutdown _ path ⟨"prompt",8,0⟩ List.mem_cons_self with waiting | ⟨slot,held⟩ | done
  · cases waiting
  · obtain ⟨index,small⟩ := slot
    obtain rfl : index = 0 := Nat.lt_one_iff.mp small
    cases held
  · exact done rfl

def orderlyShutdown : List (Event String String 1) :=
  [.start,.submit "prompt" 8,.take onlySlot,.stop,.expire 0,.interrupt onlySlot,.gathered]

theorem orderlyShutdown_keeps :
    Always (step 1) NoneLost (initial String String 1) orderlyShutdown :=
  have path : Runs (step singleSlot.queueLimit) (initial String String singleSlot.slots) orderlyShutdown _ :=
    consume_exact.mp rfl
  have spared : Throughout (step 1) Spares (initial String String 1) orderlyShutdown := by decide +kernel
  (none_lost_iff String String singleSlot orderlyShutdown _ path).mpr spared

end OpenModelOps.MetalLoss
