import OpenModelOps.JsonBytes
import OpenModelOps.JsonWriting
import Mathlib.Tactic.Ring

namespace JsonText

def Legible (unit : Nat × Bool) : Prop := unit.2 = true ∧ unit.1 < 0x10000 ∨ unit.2 = false ∧ Scalar unit.1

theorem Legible.code (unit : Legible u) : u.1 < 0x110000 := by
  rcases unit with ⟨_,small⟩ | ⟨_,lower | ⟨_,upper⟩⟩ <;> omega

theorem Legible.escaped (unit : Legible u) (surrogate : high u.1 = true ∨ low u.1 = true) : u.2 = true := by
  rcases unit with ⟨escaped,_⟩ | ⟨_,scalar⟩
  · exact escaped
  · obtain ⟨notHigh,notLow⟩ := scalar_unpaired scalar
    rcases surrogate with isHigh | isLow
    · rw [notHigh] at isHigh; cases isHigh
    · rw [notLow] at isLow; cases isLow

theorem joined_whole (units : List (Nat × Bool)) (read : ∀ u ∈ units, Legible u) :
    Whole (joined units) ∧ ∀ d more, joined units = d :: more → low d = true → ∃ rest, units = (d,true) :: rest := by
  fun_induction joined units with
  | case1 => exact ⟨trivial,nofun⟩
  | case2 c escaped =>
    have unit := read (c,escaped) List.mem_cons_self
    refine ⟨⟨unit.code,nofun,trivial⟩,?_⟩
    rintro d more same isLow
    cases same
    exact ⟨[],by rw [show escaped = true from unit.escaped (.inr isLow)]⟩
  | case3 c escaped d also more pair ih =>
    simp only [Bool.and_eq_true] at pair
    obtain ⟨⟨⟨_,_⟩,isHigh⟩,isLow⟩ := pair
    obtain ⟨whole,_⟩ := ih fun u member => read u (List.mem_cons_of_mem _ (List.mem_cons_of_mem _ member))
    simp only [high,low,Bool.and_eq_true,decide_eq_true_eq] at isHigh isLow
    refine ⟨⟨by omega,?_,whole⟩,?_⟩
    · intro large
      simp only [high,Bool.and_eq_true,decide_eq_true_eq] at large
      omega
    · intro e rest same low
      have code := (List.cons.inj same).1
      simp only [JsonText.low,Bool.and_eq_true,decide_eq_true_eq] at low
      omega
  | case4 c escaped d also more apart ih =>
    have unit := read (c,escaped) List.mem_cons_self
    obtain ⟨whole,lead⟩ := ih fun u member => read u (List.mem_cons_of_mem _ member)
    refine ⟨⟨unit.code,?_,whole⟩,?_⟩
    · intro isHigh e rest same
      by_contra isLow
      have lowE : low e = true := by simpa using isLow
      obtain ⟨others,units⟩ := lead e rest same lowE
      cases units
      have isEscaped : escaped = true := unit.escaped (.inl isHigh)
      exact apart (by simp [isEscaped,isHigh,lowE])
    · intro e rest same isLow
      cases same
      exact ⟨_,by rw [show escaped = true from unit.escaped (.inr isLow)]⟩

def Scalars (cs : Text) : Prop := ∀ c ∈ cs, Scalar c

theorem Consumes.scalars (consumed : Consumes cs tail) (scalars : Scalars cs) : Scalars tail := by
  obtain ⟨used,rfl,_⟩ := consumed
  exact fun c member => scalars c (List.mem_append_right _ member)

def Partial : StringState → Prop
  | .hex left value => 1 ≤ left ∧ (value + 1) * 16 ^ left ≤ 0x10000
  | _ => True

theorem hexValue_small (found : hexValue c = some n) : n < 16 := by
  unfold hexValue at found
  split at found
  · cases Option.some.inj found; omega
  split at found
  · cases Option.some.inj found; omega
  split at found
  · cases Option.some.inj found; omega
  · cases found

theorem longEscape_scalar (found : longEscape c = some value) : Scalar value := by
  unfold longEscape at found
  repeat' (split at found)
  all_goals first | (cases Option.some.inj found; exact .inl (by decide)) | cases found

theorem scanString_whole {state : StringState} {units : List (Nat × Bool)} (scalars : Scalars cs)
    (read : ∀ u ∈ units, Legible u) (part : Partial state) (scanned : scanString state units cs = some (value,tail)) :
    Whole value := by
  have plain : Partial .plain := trivial
  have slash : Partial .slash := trivial
  have start : Partial (.hex 4 0) := ⟨by decide,by decide⟩
  induction cs generalizing state units with
  | nil => simp [scanString] at scanned
  | cons c rest ih =>
    have later : Scalars rest := fun d member => scalars d (List.mem_cons_of_mem _ member)
    have grown : ∀ {u}, Legible u → ∀ v ∈ u :: units, Legible v := fun unit => List.forall_mem_cons.mpr ⟨unit,read⟩
    cases state with
    | plain =>
      simp only [scanString] at scanned
      split at scanned
      · cases scanned
        exact (joined_whole _ fun u member => read u (List.mem_reverse.mp member)).1
      split at scanned
      · exact ih later read slash scanned
      split at scanned
      · cases scanned
      · exact ih later (grown (.inr ⟨rfl,scalars c List.mem_cons_self⟩)) plain scanned
    | slash =>
      simp only [scanString] at scanned
      split at scanned
      · exact ih later read start scanned
      · split at scanned
        · rename_i found
          exact ih later (grown (.inr ⟨rfl,longEscape_scalar found⟩)) plain scanned
        · cases scanned
    | hex left value =>
      simp only [scanString] at scanned
      split at scanned
      · cases scanned
      rename_i n found
      have small := hexValue_small found
      obtain ⟨positive,bound⟩ := part
      split at scanned
      · have one : left = 1 := by omega
        subst one
        exact ih later (grown (.inl ⟨rfl,by simp only; omega⟩)) plain scanned
      · obtain ⟨less,rfl⟩ : ∃ less, left = less + 1 := ⟨left - 1,by omega⟩
        have next : Partial (.hex less (16 * value + n)) := by
          refine ⟨by omega,?_⟩
          calc (16 * value + n + 1) * 16 ^ less ≤ (16 * (value + 1)) * 16 ^ less :=
                Nat.mul_le_mul_right _ (by omega)
            _ = (value + 1) * 16 ^ (less + 1) := by ring
            _ ≤ 0x10000 := bound
        exact ih later read next scanned

theorem Scalars.next {rest : Text} (scalars : Scalars (c :: rest)) : Scalars rest := fun d member =>
  scalars d (List.mem_cons_of_mem _ member)

theorem Scalars.skip (scalars : Scalars cs) : Scalars (skipBlank cs) := (consumes_blank cs).scalars scalars

theorem literals_whole : ∀ entry ∈ literals, WholeTexts entry.2 := by
  simp [literals,WholeTexts]

theorem scans_whole (fuel : Nat) :
    (∀ {cs value tail}, Scalars cs → scanValue fuel cs = some (value,tail) → WholeTexts value) ∧
    (∀ {cs items tail}, Scalars cs → scanItems fuel cs = some (items,tail) → WholeItems items) ∧
    (∀ {cs fields tail}, Scalars cs → scanFields fuel cs = some (fields,tail) → WholeFields fields) := by
  have plain : Partial .plain := trivial
  induction fuel with
  | zero => simp [scanValue,scanItems,scanFields]
  | succ fuel ih =>
    obtain ⟨values,items,fields⟩ := ih
    have consumed := scans_consume fuel
    refine ⟨?_,?_,?_⟩
    · intro cs value tail scalars scanned
      cases scanValue_cases scanned with
      | string head string =>
        rw [head] at scalars
        exact scanString_whole scalars.next (by simp) plain string
      | emptyObject _ _ => trivial
      | object head read =>
        rw [head] at scalars
        exact fields scalars.next.skip read
      | emptyArray _ _ => trivial
      | array head read =>
        rw [head] at scalars
        exact items scalars.next.skip read
      | literal literal =>
        obtain ⟨entry,chosen,equal⟩ := Option.map_eq_some_iff.mp literal
        rw [← (Prod.mk.inj equal).1]
        exact literals_whole entry (List.mem_of_find?_eq_some chosen)
      | number _ => trivial
    · intro cs found tail scalars scanned
      obtain ⟨value,afterValue,d,after,read,next,ending⟩ := scanItems_parts scanned
      have here := values scalars read
      rcases ending with ⟨_,_,rfl⟩ | ⟨_,more,deeper,rfl⟩
      · exact ⟨here,trivial⟩
      · have rest := (consumed.1 read).scalars scalars |>.skip
        rw [next] at rest
        exact ⟨here,items rest.next.skip deeper⟩
    · intro cs found tail scalars scanned
      obtain ⟨rest,key,afterKey,afterColon,value,afterValue,d,after,rfl,string,colon,read,next,ending⟩ :=
        scanFields_parts scanned
      have named : Whole key := scanString_whole scalars.next (by simp) plain string
      have behind := (string_consumes string).scalars scalars |>.skip
      rw [colon] at behind
      have here := values behind.next.skip read
      rcases ending with ⟨_,_,rfl⟩ | ⟨_,more,deeper,rfl⟩
      · exact ⟨named,here,trivial⟩
      · have last := (consumed.1 read).scalars behind.next.skip |>.skip
        rw [next] at last
        exact ⟨named,here,fields last.next.skip deeper⟩

theorem loads_whole (scalars : Scalars cs) (loaded : loads cs = some value) : WholeTexts value := by
  unfold loads at loaded
  split at loaded
  · cases loaded
  rename_i found tail scanned
  split at loaded
  · cases Option.some.inj loaded
    exact (scans_whole _).1 scalars.skip scanned
  · cases loaded

end JsonText
