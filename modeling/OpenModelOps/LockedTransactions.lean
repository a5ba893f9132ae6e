import OpenModelOps.RunHistory

namespace LockedTransactions
open RunHistory
variable {σ κ ε : Type}

-- Calls on a store with one connection. What a call checks before it takes the
-- lock, and the statements of the transaction it runs while it holds it.
structure Program (σ κ ε : Type) where
  check : κ → Option ε
  statements : κ → List (σ → Except ε σ)

def runAll : List (σ → Except ε σ) → σ → Except ε σ
  | [],s => .ok s
  | statement :: rest,s => match statement s with
    | .error failure => .error failure
    | .ok t => runAll rest t

def Program.perform (program : Program σ κ ε) (s : σ) (call : κ) : σ × Option ε :=
  match program.check call with
  | some failure => (s,some failure)
  | none => match runAll (program.statements call) s with
    | .error failure => (s,some failure)
    | .ok t => (t,none)

theorem perform_commits {program : Program σ κ ε} (checked : program.check call = none)
    (ran : runAll (program.statements call) s = .ok t) : program.perform s call = (t,none) := by
  rw [Program.perform,checked]
  simp only [ran]

theorem perform_rolls_back {program : Program σ κ ε} {failure : ε} (checked : program.check call = none)
    (ran : runAll (program.statements call) s = .error failure) : program.perform s call = (s,some failure) := by
  rw [Program.perform,checked]
  simp only [ran]

-- A transaction that is open: the rows as its own statements have left them, and
-- the statements still to come.
structure Holding (σ κ ε : Type) where
  client : Nat
  call : κ
  working : σ
  rest : List (σ → Except ε σ)

structure Shared (σ κ ε : Type) where
  committed : σ
  holder : Option (Holding σ κ ε)
  waiting : Nat → Option κ
  log : List (κ × Option ε)

def start (s : σ) : Shared σ κ ε := ⟨s,none,fun _ => none,[]⟩

inductive Event (κ : Type) where
  | call (client : Nat) (call : κ)
  | acquire (client : Nat)
  | statement
  | commit

-- One client is served by one call at a time. Leaving the block on an exception
-- rolls the transaction back, leaving it otherwise commits; both free the lock.
def advance (program : Program σ κ ε) (shared : Shared σ κ ε) : Event κ → Option (Shared σ κ ε)
  | .call client call =>
    match program.check call with
    | some failure => some {shared with log := shared.log ++ [(call,some failure)]}
    | none => match shared.waiting client with
      | some _ => none
      | none => some {shared with waiting := Function.update shared.waiting client (some call)}
  | .acquire client =>
    match shared.holder,shared.waiting client with
    | none,some call => some {shared with
        holder := some ⟨client,call,shared.committed,program.statements call⟩
        waiting := Function.update shared.waiting client none}
    | _,_ => none
  | .statement =>
    match shared.holder with
    | some ⟨client,call,working,statement :: rest⟩ => match statement working with
      | .ok after => some {shared with holder := some ⟨client,call,after,rest⟩}
      | .error failure => some {shared with holder := none, log := shared.log ++ [(call,some failure)]}
    | _ => none
  | .commit =>
    match shared.holder with
    | some ⟨_,call,working,[]⟩ => some {shared with
        committed := working, holder := none, log := shared.log ++ [(call,none)]}
    | _ => none

-- The calls one after another, each with what it raised.
def replay [DecidableEq ε] (program : Program σ κ ε) (s : σ) (entry : κ × Option ε) : Option σ :=
  if (program.perform s entry.1).2 = entry.2 then some (program.perform s entry.1).1 else none

theorem replay_parts [DecidableEq ε] {program : Program σ κ ε} {entry : κ × Option ε}
    (taken : replay program s entry = some t) : program.perform s entry.1 = (t,entry.2) := by
  unfold replay at taken
  split at taken
  · rename_i same
    exact Prod.ext (Option.some.inj taken) same
  · cases taken

theorem replay_of [DecidableEq ε] {program : Program σ κ ε} (done : program.perform s call = (t,raised)) :
    replay program s (call,raised) = some t := by
  rw [replay,done]
  exact if_pos rfl

-- The open transaction is somewhere in its own statements, begun on the rows as
-- they are committed.
structure Sound [DecidableEq ε] (program : Program σ κ ε) (s : σ) (shared : Shared σ κ ε) : Prop where
  serial : Runs (replay program) s shared.log shared.committed
  waits : ∀ client call, shared.waiting client = some call → program.check call = none
  open_ : ∀ holding, shared.holder = some holding → program.check holding.call = none ∧
    runAll (program.statements holding.call) shared.committed = runAll holding.rest holding.working

section Serial
variable [DecidableEq ε] {program : Program σ κ ε} {s : σ} {before after : Shared σ κ ε} {event : Event κ}

theorem start_sound (program : Program σ κ ε) (s : σ) : Sound program s (start s) := ⟨.stop,nofun,nofun⟩

theorem Sound.raised {call : κ} {failure : ε} (sound : Sound program s before)
    (done : program.perform before.committed call = (before.committed,some failure)) :
    Runs (replay program) s (before.log ++ [(call,some failure)]) before.committed :=
  sound.serial.trans (.single (replay_of done))

theorem advance_sound (sound : Sound program s before) (taken : advance program before event = some after) :
    Sound program s after := by
  cases event with
  | call client call =>
    rw [advance] at taken
    cases checked : program.check call with
    | some failure =>
      rw [checked] at taken
      cases Option.some.inj taken
      exact ⟨sound.raised (by rw [Program.perform,checked]),sound.waits,sound.open_⟩
    | none =>
      rw [checked] at taken
      dsimp only at taken
      split at taken
      · cases taken
      · cases Option.some.inj taken
        refine ⟨sound.serial,fun other later found => ?_,sound.open_⟩
        rcases updated_read (show id _ = _ from found) with ⟨_,same⟩ | ⟨_,old⟩
        · cases Option.some.inj same
          exact checked
        · exact sound.waits other later old
  | acquire client =>
    rw [advance] at taken
    split at taken
    · rename_i call free waiting
      cases Option.some.inj taken
      refine ⟨sound.serial,fun other later found => ?_,fun holding held => ?_⟩
      · rcases updated_read (show id _ = _ from found) with ⟨_,gone⟩ | ⟨_,old⟩
        · cases gone
        · exact sound.waits other later old
      · cases Option.some.inj held
        exact ⟨sound.waits client call waiting,rfl⟩
    · cases taken
  | statement =>
    rw [advance] at taken
    split at taken
    · rename_i client call working statement rest held
      obtain ⟨checked,progress⟩ := sound.open_ _ held
      rw [runAll] at progress
      split at taken
      · rename_i next stepped
        cases Option.some.inj taken
        refine ⟨sound.serial,sound.waits,fun holding now => ?_⟩
        cases Option.some.inj now
        rw [stepped] at progress
        exact ⟨checked,progress⟩
      · rename_i failure failed
        cases Option.some.inj taken
        rw [failed] at progress
        exact ⟨sound.raised (perform_rolls_back checked progress),sound.waits,nofun⟩
    · cases taken
  | commit =>
    rw [advance] at taken
    split at taken
    · rename_i client call working held
      cases Option.some.inj taken
      obtain ⟨checked,progress⟩ := sound.open_ _ held
      exact ⟨sound.serial.trans (.single (replay_of (perform_commits checked progress))),sound.waits,nofun⟩
    · cases taken

-- Whatever the interleaving, the committed rows are those of the calls one after
-- another, and each call has raised what it raises there.
theorem interleaved_serial {events : List (Event κ)} {shared : Shared σ κ ε}
    (path : Runs (advance program) (start s) events shared) : Runs (replay program) s shared.log shared.committed :=
  (path.invariant advance_sound (start_sound program s)).serial

end Serial

structure Only (holds : κ → Prop) (shared : Shared σ κ ε) : Prop where
  waits : ∀ client call, shared.waiting client = some call → holds call
  open_ : ∀ holding, shared.holder = some holding → holds holding.call
  logged : ∀ entry ∈ shared.log, holds entry.1

theorem start_only (holds : κ → Prop) (s : σ) : Only holds (start s : Shared σ κ ε) := ⟨nofun,nofun,nofun⟩

theorem Only.imp {holds more : κ → Prop} {shared : Shared σ κ ε} (only : Only holds shared)
    (weaker : ∀ call, holds call → more call) : Only more shared :=
  ⟨fun client call found => weaker call (only.waits client call found),
    fun holding held => weaker _ (only.open_ holding held),fun entry member => weaker _ (only.logged entry member)⟩

theorem Only.append {holds : κ → Prop} {shared : Shared σ κ ε} (only : Only holds shared) {call : κ} {raised : Option ε}
    (here : holds call) : ∀ entry ∈ shared.log ++ [(call,raised)], holds entry.1 := by
  intro entry member
  rcases List.mem_append.mp member with old | new
  · exact only.logged entry old
  · cases List.mem_singleton.mp new
    exact here

theorem advance_only {holds : κ → Prop} {program : Program σ κ ε} {before after : Shared σ κ ε} {event : Event κ}
    (only : Only holds before) (called : ∀ client call, event = .call client call → holds call)
    (taken : advance program before event = some after) : Only holds after := by
  cases event with
  | call client call =>
    have here := called client call rfl
    rw [advance] at taken
    split at taken
    · cases Option.some.inj taken
      exact ⟨only.waits,only.open_,only.append here⟩
    · split at taken
      · cases taken
      · cases Option.some.inj taken
        refine ⟨fun other later found => ?_,only.open_,only.logged⟩
        rcases updated_read (show id _ = _ from found) with ⟨_,same⟩ | ⟨_,old⟩
        · cases Option.some.inj same
          exact here
        · exact only.waits other later old
  | acquire client =>
    rw [advance] at taken
    split at taken
    · rename_i call free waiting
      cases Option.some.inj taken
      refine ⟨fun other later found => ?_,fun holding held => ?_,only.logged⟩
      · rcases updated_read (show id _ = _ from found) with ⟨_,gone⟩ | ⟨_,old⟩
        · cases gone
        · exact only.waits other later old
      · cases Option.some.inj held
        exact only.waits client call waiting
    · cases taken
  | statement =>
    rw [advance] at taken
    split at taken
    · rename_i client call working statement rest held
      have here := only.open_ _ held
      split at taken
      · cases Option.some.inj taken
        refine ⟨only.waits,fun holding now => ?_,only.logged⟩
        cases Option.some.inj now
        exact here
      · cases Option.some.inj taken
        exact ⟨only.waits,nofun,only.append here⟩
    · cases taken
  | commit =>
    rw [advance] at taken
    split at taken
    · rename_i client call working held
      cases Option.some.inj taken
      exact ⟨only.waits,nofun,only.append (only.open_ _ held)⟩
    · cases taken

end LockedTransactions
