import Mathlib.Data.List.Nodup
import Mathlib.Data.List.Perm.Subperm
import Mathlib.Logic.Relation

namespace DepthFirst
variable {κ : Type} [DecidableEq κ]

-- The log is not part of a search: it lists the expanded nodes in their order.
structure Colours (κ : Type) where
  visiting : List κ
  visited : List κ
  expanded : List κ

def Colours.white : Colours κ := ⟨[],[],[]⟩

inductive Failure (κ : Type) where
  | cycle (node : κ)
  | unknown (node : κ)
  | exhausted
  deriving DecidableEq

-- A loop that stops at the first failure and leaves the colours as they are.
def visitAll (visitOne : κ → Colours κ → Option (Failure κ) × Colours κ) :
    List κ → Colours κ → Option (Failure κ) × Colours κ
  | [],s => (none,s)
  | node :: rest,s => match visitOne node s with
    | (some failure,t) => (some failure,t)
    | (none,t) => visitAll visitOne rest t

-- Depth-first search with three colours. The calls nest as deep as the fuel.
def visit (next : κ → Option (List κ)) : Nat → κ → Colours κ → Option (Failure κ) × Colours κ
  | 0,_,s => (some .exhausted,s)
  | fuel + 1,node,s =>
    if node ∈ s.visiting then (some (.cycle node),s)
    else if node ∈ s.visited then (none,s)
    else match next node with
      | none => (some (.unknown node),{s with visiting := node :: s.visiting})
      | some successors =>
        match visitAll (visit next fuel) successors ⟨node :: s.visiting,s.visited,s.expanded ++ [node]⟩ with
        | (some failure,t) => (some failure,t)
        | (none,t) => (none,{t with visiting := t.visiting.erase node, visited := node :: t.visited})

def Edge (next : κ → Option (List κ)) (a b : κ) : Prop := ∃ successors, next a = some successors ∧ b ∈ successors

def OnCycle (next : κ → Option (List κ)) (node : κ) : Prop := Relation.TransGen (Edge next) node node

structure Sound (next : κ → Option (List κ)) (s : Colours κ) : Prop where
  apart : ∀ node ∈ s.visiting, node ∉ s.visited
  stack : s.visiting.Nodup
  closed : ∀ node ∈ s.visited, ∀ other, Edge next node other → other ∈ s.visited
  acyclic : ∀ node ∈ s.visited, ¬ OnCycle next node
  once : s.expanded.Nodup
  coloured : ∀ node, node ∈ s.expanded ↔ node ∈ s.visiting ∨ node ∈ s.visited

omit [DecidableEq κ] in
theorem Sound.white (next : κ → Option (List κ)) : Sound next .white :=
  ⟨nofun,.nil,nofun,nofun,.nil,fun _ => ⟨nofun,fun both => both.elim nofun nofun⟩⟩

omit [DecidableEq κ] in
theorem Sound.reaches {next : κ → Option (List κ)} {s : Colours κ} (sound : Sound next s) {a b : κ}
    (walk : Relation.ReflTransGen (Edge next) a b) (inside : a ∈ s.visited) : b ∈ s.visited := by
  induction walk with
  | refl => exact inside
  | tail _ edge ih => exact sound.closed _ ih _ edge

section Search
variable {next : κ → Option (List κ)} {fuel : Nat} {node : κ} {nodes : List κ} {s t : Colours κ}
  {failure : Failure κ}

inductive Justified (next : κ → Option (List κ)) (node : κ) : Failure κ → Prop where
  | cycle {other : κ} : OnCycle next other → Justified next node (.cycle other)
  | unknown {other : κ} : Relation.ReflTransGen (Edge next) node other → next other = none →
      Justified next node (.unknown other)
  | exhausted : Justified next node .exhausted

omit [DecidableEq κ] in
theorem Justified.before {other : κ} (edge : Edge next node other) (justified : Justified next other failure) :
    Justified next node failure := by
  cases justified with
  | cycle cyclic => exact .cycle cyclic
  | unknown walk absent => exact .unknown (.head edge walk) absent
  | exhausted => exact .exhausted

structure Visited (next : κ → Option (List κ)) (s t : Colours κ) : Prop where
  sound : Sound next t
  visiting : t.visiting = s.visiting
  grown : ∀ node ∈ s.visited, node ∈ t.visited

def Visits (next : κ → Option (List κ)) (visitOne : κ → Colours κ → Option (Failure κ) × Colours κ) : Prop :=
  ∀ node s, Sound next s → (∀ open_ ∈ s.visiting, Relation.TransGen (Edge next) open_ node) →
    ((visitOne node s).1 = none → Visited next s (visitOne node s).2 ∧ node ∈ (visitOne node s).2.visited) ∧
    (∀ failure, (visitOne node s).1 = some failure → Justified next node failure) ∧
    (visitOne node s).2.expanded.Nodup

omit [DecidableEq κ] in
theorem Visited.refl (sound : Sound next s) : Visited next s s := ⟨sound,rfl,fun _ inside => inside⟩

omit [DecidableEq κ] in
theorem visitAll_visits {visitOne : κ → Colours κ → Option (Failure κ) × Colours κ} (visits : Visits next visitOne)
    (sound : Sound next s) (leads : ∀ node ∈ nodes, ∀ open_ ∈ s.visiting, Relation.TransGen (Edge next) open_ node) :
    ((visitAll visitOne nodes s).1 = none → Visited next s (visitAll visitOne nodes s).2 ∧
      ∀ node ∈ nodes, node ∈ (visitAll visitOne nodes s).2.visited) ∧
    (∀ failure, (visitAll visitOne nodes s).1 = some failure → ∃ node ∈ nodes, Justified next node failure) ∧
    (visitAll visitOne nodes s).2.expanded.Nodup := by
  induction nodes generalizing s with
  | nil => exact ⟨fun _ => ⟨.refl sound,nofun⟩,nofun,sound.once⟩
  | cons node rest ih =>
    obtain ⟨finished,justified,once⟩ := visits node s sound (leads node List.mem_cons_self)
    rw [visitAll]
    cases called : visitOne node s with
    | mk result t =>
      rw [called] at finished justified once
      cases result with
      | some failure =>
        refine ⟨nofun,fun other same => ?_,once⟩
        cases Option.some.inj same
        exact ⟨node,List.mem_cons_self,justified failure rfl⟩
      | none =>
        obtain ⟨visited,inside⟩ := finished rfl
        obtain ⟨later,fails,distinct⟩ := ih visited.sound fun other member open_ isOpen =>
          leads other (List.mem_cons_of_mem _ member) open_ (visited.visiting ▸ isOpen)
        refine ⟨fun done => ?_,fun failure failed => ?_,distinct⟩
        · obtain ⟨after,all⟩ := later done
          refine ⟨⟨after.sound,after.visiting.trans visited.visiting,fun n known => after.grown n (visited.grown n known)⟩,?_⟩
          exact List.forall_mem_cons.mpr ⟨after.grown node inside,all⟩
        · obtain ⟨other,member,because⟩ := fails failure failed
          exact ⟨other,List.mem_cons_of_mem _ member,because⟩

omit [DecidableEq κ] in
theorem Sound.opened (sound : Sound next s) (closed : node ∉ s.visiting) (unseen : node ∉ s.visited) :
    Sound next ⟨node :: s.visiting,s.visited,s.expanded ++ [node]⟩ where
  apart := List.forall_mem_cons.mpr ⟨unseen,sound.apart⟩
  stack := List.nodup_cons.mpr ⟨closed,sound.stack⟩
  closed := sound.closed
  acyclic := sound.acyclic
  once := by
    refine List.nodup_append.mpr ⟨sound.once,by simp,?_⟩
    rintro other inside _ last rfl
    cases List.mem_singleton.mp last
    rcases (sound.coloured node).mp inside with isOpen | seen
    · exact closed isOpen
    · exact unseen seen
  coloured := by
    intro other
    simp only [List.mem_append,List.mem_cons,sound.coloured]
    tauto

-- A node whose successors are all visited closes: a cycle through it would
-- come back to it inside the visited ones.
theorem Sound.closed_node {open_ : List κ} (sound : Sound next t) (top : t.visiting = node :: open_)
    (found : next node = some successors) (all : ∀ other ∈ successors, other ∈ t.visited) :
    Sound next {t with visiting := t.visiting.erase node, visited := node :: t.visited} := by
  have stack := sound.stack
  rw [top] at stack
  have unseen : node ∉ t.visited := sound.apart node (by rw [top]; exact List.mem_cons_self)
  have rest : t.visiting.erase node = open_ := by rw [top,List.erase_cons_head]
  have forward : ∀ other, Edge next node other → other ∈ t.visited := by
    rintro other ⟨again,same,member⟩
    cases Option.some.inj (found.symm.trans same)
    exact all other member
  constructor
  · rw [rest]
    intro other isOpen seen
    rcases List.mem_cons.mp seen with rfl | seen
    · exact (List.nodup_cons.mp stack).1 isOpen
    · exact sound.apart other (by rw [top]; exact List.mem_cons_of_mem _ isOpen) seen
  · rw [rest]
    exact (List.nodup_cons.mp stack).2
  · intro known member other edge
    rcases List.mem_cons.mp member with rfl | member
    · exact List.mem_cons_of_mem _ (forward other edge)
    · exact List.mem_cons_of_mem _ (sound.closed known member other edge)
  · intro known member cyclic
    rcases List.mem_cons.mp member with rfl | member
    · obtain ⟨first,edge,walk⟩ := Relation.TransGen.head'_iff.mp cyclic
      exact unseen (sound.reaches walk (forward first edge))
    · exact sound.acyclic known member cyclic
  · exact sound.once
  · intro other
    rw [rest,sound.coloured,top,List.mem_cons,List.mem_cons]
    tauto

theorem visit_visits (next : κ → Option (List κ)) (fuel : Nat) : Visits next (visit next fuel) := by
  induction fuel with
  | zero => exact fun _ s sound _ => ⟨nofun,fun failure same => by cases Option.some.inj same; exact .exhausted,sound.once⟩
  | succ fuel ih =>
    intro node s sound leads
    rw [visit]
    by_cases isOpen : node ∈ s.visiting
    · rw [if_pos isOpen]
      refine ⟨nofun,fun failure same => ?_,sound.once⟩
      cases Option.some.inj same
      exact .cycle (leads node isOpen)
    rw [if_neg isOpen]
    by_cases seen : node ∈ s.visited
    · rw [if_pos seen]
      exact ⟨fun _ => ⟨.refl sound,seen⟩,nofun,sound.once⟩
    rw [if_neg seen]
    cases found : next node with
    | none =>
      refine ⟨nofun,fun failure same => ?_,sound.once⟩
      cases Option.some.inj same
      exact .unknown .refl found
    | some successors =>
      have opened := sound.opened isOpen seen
      have edges : ∀ other ∈ successors, Edge next node other := fun other member => ⟨successors,found,member⟩
      have onward : ∀ other ∈ successors, ∀ open_ ∈ node :: s.visiting, Relation.TransGen (Edge next) open_ other := by
        intro other member open_ inside
        rcases List.mem_cons.mp inside with rfl | inside
        · exact .single (edges other member)
        · exact (leads open_ inside).tail (edges other member)
      obtain ⟨finished,fails,once⟩ := visitAll_visits ih opened onward
      dsimp only
      cases called : visitAll (visit next fuel) successors ⟨node :: s.visiting,s.visited,s.expanded ++ [node]⟩ with
      | mk result t =>
        rw [called] at finished fails once
        cases result with
        | some failure =>
          refine ⟨nofun,fun other same => ?_,once⟩
          cases Option.some.inj same
          obtain ⟨successor,member,because⟩ := fails failure rfl
          exact because.before (edges successor member)
        | none =>
          obtain ⟨visited,all⟩ := finished rfl
          have top : t.visiting = node :: s.visiting := visited.visiting
          have rest : t.visiting.erase node = s.visiting := by rw [top,List.erase_cons_head]
          refine ⟨fun _ => ⟨⟨visited.sound.closed_node top found all,rest,?_⟩,List.mem_cons_self⟩,nofun,once⟩
          · exact fun known member => List.mem_cons_of_mem _ (visited.grown known member)

omit [DecidableEq κ] in
theorem visitAll_enough {visitOne : κ → Colours κ → Option (Failure κ) × Colours κ} (visits : Visits next visitOne)
    (sound : Sound next s) (leads : ∀ node ∈ nodes, ∀ open_ ∈ s.visiting, Relation.TransGen (Edge next) open_ node)
    (enough : ∀ node ∈ nodes, ∀ t, Sound next t → t.visiting = s.visiting → (visitOne node t).1 ≠ some .exhausted) :
    (visitAll visitOne nodes s).1 ≠ some .exhausted := by
  induction nodes generalizing s with
  | nil => exact nofun
  | cons node rest ih =>
    have here := enough node List.mem_cons_self s sound rfl
    obtain ⟨finished,_,_⟩ := visits node s sound (leads node List.mem_cons_self)
    rw [visitAll]
    cases called : visitOne node s with
    | mk result t =>
      rw [called] at here finished
      cases result with
      | some failure => exact here
      | none =>
        obtain ⟨visited,_⟩ := finished rfl
        refine ih visited.sound (fun other member open_ isOpen => ?_) fun other member after sound same => ?_
        · exact leads other (List.mem_cons_of_mem _ member) open_ (visited.visiting ▸ isOpen)
        · exact enough other (List.mem_cons_of_mem _ member) after sound (same.trans visited.visiting)

-- The open nodes are different keys, so the calls nest no deeper than the keys
-- are many.
theorem visit_enough {keys : List κ} (known : ∀ node, (next node).isSome = true → node ∈ keys) (sound : Sound next s)
    (leads : ∀ open_ ∈ s.visiting, Relation.TransGen (Edge next) open_ node) (listed : ∀ open_ ∈ s.visiting, open_ ∈ keys)
    (enough : keys.length < fuel + s.visiting.length) : (visit next fuel node s).1 ≠ some .exhausted := by
  induction fuel generalizing node s with
  | zero =>
    have fewer := (List.subperm_of_subset sound.stack listed).length_le
    omega
  | succ fuel ih =>
    rw [visit]
    by_cases isOpen : node ∈ s.visiting
    · rw [if_pos isOpen]
      exact nofun
    rw [if_neg isOpen]
    by_cases seen : node ∈ s.visited
    · rw [if_pos seen]
      exact nofun
    rw [if_neg seen]
    cases found : next node with
    | none => exact nofun
    | some successors =>
      have onward : ∀ other ∈ successors, ∀ open_ ∈ node :: s.visiting, Relation.TransGen (Edge next) open_ other := by
        intro other member open_ inside
        have edge : Edge next node other := ⟨successors,found,member⟩
        rcases List.mem_cons.mp inside with rfl | inside
        · exact .single edge
        · exact (leads open_ inside).tail edge
      have loop := visitAll_enough (visit_visits next fuel) (sound.opened isOpen seen) onward fun other member t held same => by
        have top : t.visiting = node :: s.visiting := same
        refine ih held ?_ ?_ ?_
        · exact fun open_ inside => onward other member open_ (top ▸ inside)
        · rw [top]
          exact List.forall_mem_cons.mpr ⟨known node (by rw [found]; rfl),listed⟩
        · rw [top,List.length_cons]
          omega
      dsimp only
      cases called : visitAll (visit next fuel) successors ⟨node :: s.visiting,s.visited,s.expanded ++ [node]⟩ with
      | mk result t =>
        rw [called] at loop
        cases result with
        | some failure => exact loop
        | none => exact nofun

omit [DecidableEq κ] in
theorem visitAll_more {visitOne deeper : κ → Colours κ → Option (Failure κ) × Colours κ}
    (same : ∀ node s, (visitOne node s).1 ≠ some .exhausted → deeper node s = visitOne node s)
    (ended : (visitAll visitOne nodes s).1 ≠ some .exhausted) : visitAll deeper nodes s = visitAll visitOne nodes s := by
  induction nodes generalizing s with
  | nil => rfl
  | cons node rest ih =>
    rw [visitAll] at ended
    have here : (visitOne node s).1 ≠ some .exhausted := by
      intro stuck
      cases called : visitOne node s with
      | mk result t =>
        rw [called] at ended stuck
        cases stuck
        exact ended rfl
    rw [visitAll,visitAll,same node s here]
    cases called : visitOne node s with
    | mk result t =>
      rw [called] at ended
      cases result with
      | some failure => rfl
      | none => exact ih ended

theorem visit_more (ended : (visit next fuel node s).1 ≠ some .exhausted) (more : fuel ≤ deeper) :
    visit next deeper node s = visit next fuel node s := by
  induction fuel generalizing node s deeper with
  | zero => exact absurd rfl ended
  | succ fuel ih =>
    obtain ⟨deeper,rfl⟩ := Nat.exists_eq_succ_of_ne_zero (by omega : deeper ≠ 0)
    rw [visit] at ended
    rw [visit,visit]
    by_cases isOpen : node ∈ s.visiting
    · rw [if_pos isOpen,if_pos isOpen]
    rw [if_neg isOpen] at ended
    rw [if_neg isOpen,if_neg isOpen]
    by_cases seen : node ∈ s.visited
    · rw [if_pos seen,if_pos seen]
    rw [if_neg seen] at ended
    rw [if_neg seen,if_neg seen]
    cases found : next node with
    | none => rfl
    | some successors =>
      rw [found] at ended
      dsimp only at ended ⊢
      rw [visitAll_more (fun other t finished => ih finished (by omega))]
      intro stuck
      cases called : visitAll (visit next fuel) successors ⟨node :: s.visiting,s.visited,s.expanded ++ [node]⟩ with
      | mk result t =>
        rw [called] at ended stuck
        cases stuck
        exact ended rfl

def search (next : κ → Option (List κ)) (keys : List κ) (fuel : Nat) : Option (Failure κ) × Colours κ :=
  visitAll (visit next fuel) keys .white

theorem search_ends {keys : List κ} (known : ∀ node, (next node).isSome = true → node ∈ keys)
    (enough : keys.length < fuel) : (search next keys fuel).1 ≠ some .exhausted := by
  refine visitAll_enough (visit_visits next fuel) (.white next) (fun _ _ => nofun) fun node member t sound same => ?_
  have empty : t.visiting = [] := same
  refine visit_enough known sound ?_ ?_ ?_
  · rw [empty]; exact nofun
  · rw [empty]; exact nofun
  · rw [empty]; exact enough

theorem search_more {keys : List κ} (ended : (search next keys fuel).1 ≠ some .exhausted) (more : fuel ≤ deeper) :
    search next keys deeper = search next keys fuel :=
  visitAll_more (fun _ _ finished => visit_more finished more) ended

-- It succeeds exactly when there is no cycle, and it finds one otherwise.
theorem search_exact {keys : List κ} (known : ∀ node, (next node).isSome = true ↔ node ∈ keys)
    (listed : ∀ a b, Edge next a b → b ∈ keys) (enough : keys.length < fuel) :
    ((search next keys fuel).1 = none ↔ ∀ node, ¬ OnCycle next node) ∧
      ∀ failure, (search next keys fuel).1 = some failure → ∃ node, failure = .cycle node ∧ OnCycle next node := by
  obtain ⟨finished,fails,_⟩ := visitAll_visits (visit_visits next fuel) (.white next)
    fun node (_ : node ∈ keys) => nofun
  have cycles : ∀ failure, (search next keys fuel).1 = some failure →
      ∃ node, failure = .cycle node ∧ OnCycle next node := by
    intro failure failed
    obtain ⟨node,member,because⟩ := fails failure failed
    cases because with
    | cycle cyclic => exact ⟨_,rfl,cyclic⟩
    | @unknown other walk absent =>
      have key : other ∈ keys := by
        cases walk with
        | refl => exact member
        | tail _ edge => exact listed _ _ edge
      have present := (known other).mpr key
      rw [absent] at present
      cases present
    | exhausted => exact absurd failed (search_ends (fun node => (known node).mp) enough)
  refine ⟨⟨fun done node cyclic => ?_,fun acyclic => ?_⟩,cycles⟩
  · obtain ⟨visited,all⟩ := finished done
    obtain ⟨first,⟨_,found,_⟩,_⟩ := Relation.TransGen.head'_iff.mp cyclic
    have key : node ∈ keys := (known node).mp (by rw [found]; rfl)
    exact visited.sound.acyclic node (all node key) cyclic
  · cases result : (search next keys fuel).1 with
    | none => rfl
    | some failure =>
      obtain ⟨node,_,cyclic⟩ := cycles failure result
      exact absurd cyclic (acyclic node)

theorem search_once (next : κ → Option (List κ)) (keys : List κ) (fuel : Nat) :
    (search next keys fuel).2.expanded.Nodup :=
  (visitAll_visits (visit_visits next fuel) (.white next) fun node (_ : node ∈ keys) => nofun).2.2

end Search

end DepthFirst
