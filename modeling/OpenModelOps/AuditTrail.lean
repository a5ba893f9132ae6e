import Mathlib.Data.List.Basic

namespace AuditTrail
variable {σ ε : Type*} {source target : ε → σ} {edge : σ → σ → Prop} {start middle final : σ}
  {entry : ε} {trail : List ε}

-- Replaying the trail from the first state ends in the last one: every entry
-- leaves the state that the entry before it entered.
def Leads (source target : ε → σ) : σ → List ε → σ → Prop
  | start,[],final => start = final
  | start,entry :: rest,final => source entry = start ∧ Leads source target (target entry) rest final

instance decideLeads [DecidableEq σ] (source target : ε → σ) :
    (start : σ) → (trail : List ε) → (final : σ) → Decidable (Leads source target start trail final)
  | start,[],final => inferInstanceAs (Decidable (start = final))
  | start,entry :: rest,final => have := decideLeads source target (target entry) rest final
    inferInstanceAs (Decidable (source entry = start ∧ _))

theorem Leads.append (first : Leads source target start trail middle) {rest : List ε}
    (second : Leads source target middle rest final) : Leads source target start (trail ++ rest) final := by
  induction trail generalizing start with
  | nil => cases first; exact second
  | cons entry later ih => exact ⟨first.1,ih first.2⟩

theorem Leads.start_unique {other : σ} (first : Leads source target start trail final)
    (second : Leads source target other trail final) : start = other := by
  cases trail with
  | nil => exact first.trans second.symm
  | cons entry rest => exact first.1.symm.trans second.1

section Ranked
variable {rank : σ → Nat} (rises : ∀ {before after}, edge before after → rank before < rank after)
include rises

theorem Leads.length_le (path : Leads source target start trail final)
    (edges : ∀ entry ∈ trail, edge (source entry) (target entry)) :
    trail.length + rank start ≤ rank final := by
  induction trail generalizing start with
  | nil => cases path; simp
  | cons entry rest ih =>
    obtain ⟨rfl,later⟩ := path
    have up := rises (edges entry List.mem_cons_self)
    have bound := ih later fun other member => edges other (List.mem_cons_of_mem _ member)
    rw [List.length_cons]
    omega

theorem Leads.target_le (path : Leads source target start trail final)
    (edges : ∀ entry ∈ trail, edge (source entry) (target entry)) (member : entry ∈ trail) :
    rank (target entry) ≤ rank final := by
  induction trail generalizing start with
  | nil => simp at member
  | cons first rest ih =>
    obtain ⟨rfl,later⟩ := path
    have others : ∀ other ∈ rest, edge (source other) (target other) :=
      fun other inside => edges other (List.mem_cons_of_mem _ inside)
    rcases List.mem_cons.mp member with rfl | member
    · have bound := later.length_le @rises others
      omega
    · exact ih later others member

end Ranked

end AuditTrail
