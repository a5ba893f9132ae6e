import OpenModelOps.MetalWorkers

namespace OpenModelOps.MetalOrder
open RunHistory SlotPool MetalWorkers
variable {ρ ξ : Type} {slots limit : Nat} {s next : State ρ ξ slots} {event : Event ρ ξ slots}

def takes : Event ρ ξ slots → Bool
  | .take _ => true
  | _ => false

-- The queue is what is left of the accepted items after so many have been taken
-- off its front. The taken ones were begun in that order, and one that was not
-- begun had been given up by its client.
structure InOrder (taken : Nat) (s : State ρ ξ slots) : Prop where
  few : taken ≤ s.accepted.length
  queue : s.queue = s.accepted.drop taken
  started : s.started.Sublist (s.accepted.take taken)
  skipped : ∀ item ∈ s.accepted.take taken, item ∈ s.started ∨ s.futures item.ticket = .cancelled

theorem InOrder.skipped_update (inOrder : InOrder taken s) {future : Future ρ ξ}
    (kept : s.futures ticket = .cancelled → future = .cancelled) :
    ∀ item ∈ s.accepted.take taken, item ∈ s.started ∨ Function.update s.futures ticket future item.ticket = .cancelled := by
  intro item member
  refine (inOrder.skipped item member).imp_right fun cancelled => ?_
  by_cases same : item.ticket = ticket
  · rw [same,Function.update_self]
    exact kept (same ▸ cancelled)
  · rw [Function.update_of_ne same]
    exact cancelled

theorem InOrder.front (inOrder : InOrder taken s) (queued : s.queue = item :: rest) :
    taken + 1 ≤ s.accepted.length ∧ rest = s.accepted.drop (taken + 1) ∧
      s.accepted.take (taken + 1) = s.accepted.take taken ++ [item] := by
  have left : s.accepted.drop taken = item :: rest := inOrder.queue.symm.trans queued
  have more : taken < s.accepted.length := by
    by_contra none_left
    rw [List.drop_eq_nil_of_le (Nat.le_of_not_lt none_left)] at left
    cases left
  have parts := List.drop_eq_getElem_cons more
  rw [left] at parts
  obtain ⟨rfl,rfl⟩ := List.cons.inj parts
  exact ⟨more,rfl,(List.take_append_getElem more).symm⟩

theorem submitted_inOrder (inOrder : InOrder taken s) (item : WorkItem) : InOrder taken {s with
    queue := s.queue ++ [item], unfinished := s.unfinished + 1, accepted := s.accepted ++ [item]} := by
  have prefix_ : (s.accepted ++ [item]).take taken = s.accepted.take taken := List.take_append_of_le_length inOrder.few
  refine ⟨?_,?_,?_,?_⟩
  · exact inOrder.few.trans (by simp)
  · dsimp only
    rw [List.drop_append_of_le_length inOrder.few,← inOrder.queue]
  · dsimp only
    rw [prefix_]
    exact inOrder.started
  · dsimp only
    rw [prefix_]
    exact inOrder.skipped

theorem moves_inOrder (inOrder : InOrder taken s) (moves : Moves limit s event next) :
    InOrder (taken + if takes event then 1 else 0) next := by
  cases moves with
  | refused | late | present | absent => exact inOrder
  | submitted _ numbered => exact submitted_inOrder inOrder _
  | expired _ _ => exact ⟨inOrder.few,inOrder.queue,inOrder.started,inOrder.skipped_update fun _ => rfl⟩
  | @dropped slot item rest vacant queued cancelled =>
    obtain ⟨few,queue,grown⟩ := inOrder.front queued
    refine ⟨few,queue,?_,?_⟩
    · refine inOrder.started.trans ?_
      change (s.accepted.take taken).Sublist (s.accepted.take (taken + 1))
      rw [grown]
      exact List.sublist_append_left _ _
    · intro other member
      change other ∈ s.accepted.take (taken + 1) at member
      rw [grown] at member
      rcases List.mem_append.mp member with before | last
      · exact inOrder.skipped other before
      · cases List.mem_singleton.mp last
        exact .inr cancelled
  | @began slot item rest vacant queued pending =>
    obtain ⟨few,queue,grown⟩ := inOrder.front queued
    refine ⟨few,queue,?_,?_⟩
    · change (s.started ++ [item]).Sublist (s.accepted.take (taken + 1))
      rw [grown]
      exact inOrder.started.append (.refl _)
    · intro other member
      change other ∈ s.accepted.take (taken + 1) at member
      rw [grown] at member
      rcases List.mem_append.mp member with before | last
      · exact (inOrder.skipped other before).imp_left fun begun => List.mem_append_left _ begun
      · exact .inl (List.mem_append_right _ last)
  | finished working still =>
    refine ⟨inOrder.few,inOrder.queue,inOrder.started,inOrder.skipped_update fun cancelled => ?_⟩
    rw [cancelled]
    rfl
  | absorbed | vacated | interrupted | started | stopping | gathered =>
    exact ⟨inOrder.few,inOrder.queue,inOrder.started,inOrder.skipped⟩

def Attentive (s : State ρ ξ slots) : Prop :=
  s.phase = .running → ∀ slot, s.workers slot = .waiting false ∨ ∃ item, s.workers slot = .generating item false

theorem Attentive.update (attentive : Attentive s) (slot : Fin slots) (worker : Worker)
    (enters : worker = .waiting false ∨ ∃ item, worker = .generating item false) :
    s.phase = .running → ∀ other, Function.update s.workers slot worker other = .waiting false ∨
      ∃ item, Function.update s.workers slot worker other = .generating item false := by
  intro running other
  by_cases same : other = slot
  · subst same
    rw [Function.update_self]
    exact enters
  · rw [Function.update_of_ne same]
    exact attentive running other

theorem moves_attentive (attentive : Attentive s) (moves : Moves limit s event next) : Attentive next := by
  cases moves with
  | refused | submitted | late | expired | dropped | present | absent => exact attentive
  | began => exact attentive.update _ _ (.inr ⟨_,rfl⟩)
  | finished => exact attentive.update _ _ (.inl rfl)
  | absorbed => exact attentive.update _ _ (.inr ⟨_,rfl⟩)
  | vacated asked =>
    intro running
    rcases attentive running _ with idle | ⟨item,busy⟩
    · rw [asked] at idle
      cases idle
    · rw [asked] at busy
      cases busy
  | interrupted asked =>
    intro running
    rcases attentive running _ with idle | ⟨item,busy⟩
    · rw [asked] at idle
      cases idle
    · rw [asked] at busy
      cases busy
  | started => exact fun _ _ => .inl rfl
  | stopping | gathered =>
    intro running
    cases running

structure Tracked (limit : Nat) (events : List (Event ρ ξ slots)) (s : State ρ ξ slots) : Prop where
  sound : Sound limit s
  inOrder : InOrder (events.countP takes) s
  attentive : Attentive s

theorem run_tracked (path : Runs (step limit) (initial ρ ξ slots) events s) : Tracked limit events s := by
  have start : Tracked limit [] (initial ρ ξ slots) := by
    refine ⟨initial_sound ρ ξ slots limit,⟨Nat.le_refl 0,rfl,.slnil,?_⟩,?_⟩
    · intro item member
      cases member
    · intro running
      cases running
  have kept : ∀ {earlier before event next}, Runs (step limit) (initial ρ ξ slots) earlier before →
      Tracked limit earlier before → step limit before event = some next → Tracked limit (earlier ++ [event]) next := by
    intro earlier before event next _ tracked taken
    have moves := step_moves tracked.sound taken
    refine ⟨moves.sound tracked.sound,?_,moves_attentive tracked.attentive moves⟩
    rw [List.countP_append,List.countP_singleton]
    exact moves_inOrder tracked.inOrder moves
  exact path.recorded kept start

theorem take_enabled {slot : Fin slots} (vacant : s.workers slot = .waiting false) (queued : s.queue = item :: rest) :
    ∃ next, step limit s (.take slot) = some next := by
  simp only [step,vacant,queued]
  split
  · exact ⟨_,rfl⟩
  · exact ⟨_,rfl⟩

theorem all_generating (attentive : Attentive s) (running : s.phase = .running)
    (none_waits : ∀ slot, s.workers slot ≠ .waiting false) : (generating s).card = slots := by
  have everyone : generating s = Finset.univ := by
    apply Finset.eq_univ_of_forall
    intro slot
    rcases attentive running slot with idle | ⟨item,busy⟩
    · exact absurd idle (none_waits slot)
    · exact mem_busy.mpr ⟨item,by rw [busy]; rfl⟩
  rw [everyone,Finset.card_univ,Fintype.card_fin]

-- First come, first served, and no slot is free while a request waits.
theorem served_in_order (ρ ξ : Type) (scheduler : Scheduler) (events : List (Event ρ ξ scheduler.slots))
    (s : State ρ ξ scheduler.slots)
    (path : Runs (step scheduler.queueLimit) (initial ρ ξ scheduler.slots) events s) :
    InOrder (events.countP takes) s ∧
      (s.phase = .running → s.queue ≠ [] → s.active = scheduler.slots ∨
        ∃ slot next, step scheduler.queueLimit s (.take slot) = some next) := by
  have tracked := run_tracked path
  refine ⟨tracked.inOrder,fun running waits => ?_⟩
  obtain ⟨item,rest,queued⟩ := List.exists_cons_of_ne_nil waits
  by_cases vacant : ∃ slot, s.workers slot = .waiting false
  · obtain ⟨slot,idle⟩ := vacant
    obtain ⟨next,taken⟩ := @take_enabled ρ ξ scheduler.slots scheduler.queueLimit s item rest slot idle queued
    exact .inr ⟨slot,next,taken⟩
  · refine .inl ?_
    rw [tracked.sound.active,all_generating tracked.attentive running fun slot idle => vacant ⟨slot,idle⟩]

def threeRequests : List (Event String String 2) :=
  [.start,.submit "first" 8,.submit "second" 8,.take firstSlot,.expire 1,.submit "third" 8,.take secondSlot,
    .take secondSlot]

theorem threeRequests_in_order : ∃ s, Runs (step 2) (initial String String 2) threeRequests s ∧
    s.started.map WorkItem.prompt = ["first","third"] ∧ InOrder 3 s :=
  have path : Runs (step pairOfSlots.queueLimit) (initial String String pairOfSlots.slots) threeRequests _ :=
    consume_exact.mp rfl
  ⟨_,path,by decide +kernel,(served_in_order String String pairOfSlots threeRequests _ path).1⟩

end OpenModelOps.MetalOrder
