import Mathlib.Logic.Basic

namespace ObjectMethods
variable {σ α β : Type} {object : σ}

-- The body of a method of a mutable object. A raise keeps the assignments that
-- were made before it.
abbrev Method (σ α : Type) := ExceptT String (StateM σ) α

def call (method : Method σ α) (object : σ) : Except String α × σ := method.run.run object

-- if condition: raise ValueError(message)
def refuse (condition : Prop) [Decidable condition] (message : String) : Method σ Unit :=
  if condition then throw message else pure ()

@[simp] theorem call_read_bind (next : σ → Method σ α) : call (get >>= next) object = call (next object) object := rfl

@[simp] theorem call_modify (change : σ → σ) : call (modify change) object = (.ok (),change object) := rfl

@[simp] theorem call_modify_bind (change : σ → σ) (next : Unit → Method σ α) :
    call (modify change >>= next) object = call (next ()) (change object) := rfl

@[simp] theorem call_refuse_bind (condition : Prop) [Decidable condition] (message : String)
    (next : Unit → Method σ α) : call (refuse condition message >>= next) object =
      if condition then (.error message,object) else call (next ()) object := by
  unfold refuse
  split <;> rfl

theorem call_bind (method : Method σ α) (next : α → Method σ β) : call (method >>= next) object =
    match call method object with
    | (.error message,left) => (.error message,left)
    | (.ok value,left) => call (next value) left := by
  unfold call
  simp only [ExceptT.run_bind,StateT.run_bind]
  cases ran : StateT.run (ExceptT.run method) object with
  | mk result left => cases result <;> rfl

def Atomic (method : Method σ α) : Prop :=
  ∀ object message left, call method object = (.error message,left) → left = object

def Sure (method : Method σ α) : Prop := ∀ object, ∃ value left, call method object = (.ok value,left)

theorem Sure.atomic {method : Method σ α} (sure : Sure method) : Atomic method := by
  intro object message left raised
  obtain ⟨value,after,done⟩ := sure object
  cases done.symm.trans raised

theorem Sure.bind {method : Method σ α} {next : α → Method σ β} (first : Sure method)
    (rest : ∀ value, Sure (next value)) : Sure (method >>= next) := by
  intro object
  obtain ⟨value,left,done⟩ := first object
  rw [call_bind,done]
  exact rest value left

theorem sure_modify (change : σ → σ) : Sure (modify change : Method σ Unit) :=
  fun _ => ⟨(),_,rfl⟩

theorem Atomic.refuse_bind {condition : Prop} [Decidable condition] {message : String} {next : Unit → Method σ α}
    (rest : Atomic (next ())) : Atomic (refuse condition message >>= next) := by
  intro object raised left failed
  rw [call_refuse_bind] at failed
  split at failed
  · cases failed; rfl
  · exact rest object raised left failed

theorem Atomic.read_bind {next : σ → Method σ α} (rest : ∀ seen, Atomic (next seen)) : Atomic (get >>= next) :=
  fun object message left raised => rest object object message left raised

end ObjectMethods
