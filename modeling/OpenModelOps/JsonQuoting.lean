import OpenModelOps.JsonText

namespace JsonText

theorem hexValue_hexDigit (small : n < 16) : hexValue (hexDigit n) = some n := by
  unfold hexValue hexDigit
  by_cases digit : n < 10
  · have bounds : 0x30 ≤ 0x30 + n ∧ 0x30 + n ≤ 0x39 := by omega
    simp only [digit,if_true,bounds,and_self,Nat.add_sub_cancel_left]
  · have above : ¬ (0x30 ≤ 0x57 + n ∧ 0x57 + n ≤ 0x39) := by omega
    have bounds : 0x61 ≤ 0x57 + n ∧ 0x57 + n ≤ 0x66 := by omega
    simp only [digit,if_false,above,bounds,and_self,if_true,Nat.add_sub_cancel_left]

theorem scanString_unicodeEscape (n : Nat) (units : List (Nat × Bool)) (rest : Text) :
    scanString .plain units (unicodeEscape n ++ rest) = scanString .plain ((n % 0x10000,true) :: units) rest := by
  have digits : ∀ m, hexValue (hexDigit (m % 16)) = some (m % 16) := fun m =>
    hexValue_hexDigit (Nat.mod_lt _ (by decide))
  have rebuilt : 16 * (16 * (16 * (n / 4096 % 16) + n / 256 % 16) + n / 16 % 16) + n % 16 = n % 0x10000 := by omega
  simp [unicodeEscape,scanString,digits,rebuilt]

theorem shortEscape_letter (found : shortEscape c = some letter) :
    letter ≠ 0x75 ∧ longEscape letter = some c := by
  unfold shortEscape at found
  repeat' (split at found)
  all_goals first
    | (cases found; subst c; refine ⟨by decide,by decide⟩)
    | cases found

theorem shortEscape_small (found : shortEscape c = some letter) : c < 0x80 := by
  unfold shortEscape at found
  split_ifs at found <;> omega

def unitsOf (c : Nat) : List (Nat × Bool) :=
  match shortEscape c with
  | some _ => [(c,false)]
  | none =>
    if 0x20 ≤ c ∧ c ≤ 0x7e then [(c,false)]
    else if c < 0x10000 then [(c,true)]
    else [(0xd800 + (c - 0x10000) / 1024,true),(0xdc00 + (c - 0x10000) % 1024,true)]

def readUnits (c : Nat) : List (Nat × Bool) := (unitsOf c).map fun unit => (unit.1 % 0x10000,unit.2)

theorem readUnits_code (code : c < 0x110000) : readUnits c = unitsOf c := by
  cases short : shortEscape c with
  | some letter =>
    have small : c % 0x10000 = c := Nat.mod_eq_of_lt (Nat.lt_trans (shortEscape_small short) (by decide))
    simp [readUnits,unitsOf,short,small]
  | none =>
    simp only [readUnits,unitsOf,short]
    split
    · simp only [List.map_cons,List.map_nil,List.cons.injEq,Prod.mk.injEq,and_true]
      omega
    · split
      · rename_i small
        simp [Nat.mod_eq_of_lt small]
      · simp only [List.map_cons,List.map_nil,List.cons.injEq,Prod.mk.injEq,and_true]
        omega

theorem scanString_escape (c : Nat) (units : List (Nat × Bool)) (rest : Text) :
    scanString .plain units (escape c ++ rest) = scanString .plain ((readUnits c).reverse ++ units) rest := by
  cases short : shortEscape c with
  | some letter =>
    obtain ⟨notU,long⟩ := shortEscape_letter short
    rw [readUnits_code (Nat.lt_trans (shortEscape_small short) (by decide))]
    simp [escape,unitsOf,short,scanString,notU,long]
  | none =>
    simp only [escape,readUnits,unitsOf,short]
    split
    · rename_i printable
      have notQuote : c ≠ 0x22 := by rintro rfl; simp [shortEscape] at short
      have notSlash : c ≠ 0x5c := by rintro rfl; simp [shortEscape] at short
      have notControl : ¬ c < 0x20 := by omega
      have small : c % 0x10000 = c := by omega
      simp [scanString,notQuote,notSlash,notControl,small]
    · split
      · rw [scanString_unicodeEscape]; rfl
      · rw [List.append_assoc,scanString_unicodeEscape,scanString_unicodeEscape]
        rfl

-- A str that a reader can return: a high surrogate is never left beside the
-- low surrogate it would be joined with.
def Whole : Text → Prop
  | [] => True
  | c :: rest => c < 0x110000 ∧ (high c = true → ∀ d more, rest = d :: more → low d = false) ∧ Whole rest

theorem Whole.code {t : Text} (whole : Whole t) : ∀ c ∈ t, c < 0x110000 := by
  induction t with
  | nil => simp
  | cons c rest ih => exact List.forall_mem_cons.mpr ⟨whole.1,ih whole.2.2⟩

theorem scalar_unpaired (scalar : Scalar c) : high c = false ∧ low c = false := by
  simp only [high,low,Bool.and_eq_false_iff,decide_eq_false_iff_not]
  rcases scalar with below | ⟨_,_⟩ <;> omega

theorem whole_of_scalars {t : Text} (scalars : ∀ c ∈ t, Scalar c) : Whole t := by
  induction t with
  | nil => trivial
  | cons c rest ih =>
    have here := scalars c List.mem_cons_self
    refine ⟨by rcases here with below | ⟨_,above⟩ <;> omega,?_,ih fun d member => scalars d (List.mem_cons_of_mem _ member)⟩
    intro isHigh
    rw [(scalar_unpaired here).1] at isHigh
    cases isHigh

theorem text_whole (s : String) : Whole (text s) := whole_of_scalars (text_scalar s)

def Apart (c : Nat) (units : List (Nat × Bool)) : Prop :=
  high c = true → ∀ d escaped more, units = (d,escaped) :: more → low d = false

theorem joined_cons {rest : List (Nat × Bool)} (apart : Apart c rest) (escaped : Bool) :
    joined ((c,escaped) :: rest) = c :: joined rest := by
  cases rest with
  | nil => rfl
  | cons unit more =>
    cases isHigh : high c with
    | false => simp [joined,isHigh]
    | true => simp [joined,apart isHigh unit.1 unit.2 more rfl]

theorem joined_units {rest : List (Nat × Bool)} (code : c < 0x110000) (apart : Apart c rest) :
    joined (unitsOf c ++ rest) = c :: joined rest := by
  unfold unitsOf
  split
  · exact joined_cons apart _
  · split
    · exact joined_cons apart _
    · split
      · exact joined_cons apart _
      · rename_i large
        have isHigh : high (0xd800 + (c - 0x10000) / 1024) = true := by
          simp only [high,Bool.and_eq_true,decide_eq_true_eq]; omega
        have isLow : low (0xdc00 + (c - 0x10000) % 1024) = true := by
          simp only [low,Bool.and_eq_true,decide_eq_true_eq]; omega
        have whole : 0x10000 + (0xd800 + (c - 0x10000) / 1024 - 0xd800) * 1024 +
            (0xdc00 + (c - 0x10000) % 1024 - 0xdc00) = c := by omega
        simp only [List.cons_append,List.nil_append,joined,isHigh,isLow,Bool.and_self,if_true,whole]

-- A text whose first code point is no low surrogate is not read as starting
-- with one: the first unit of a large code point is a high surrogate.
theorem unitsOf_lead (code : c < 0x110000) (unpaired : low c = false) :
    ∃ first escaped more, unitsOf c = (first,escaped) :: more ∧ low first = false := by
  unfold unitsOf
  split
  · exact ⟨_,_,_,rfl,unpaired⟩
  · split
    · exact ⟨_,_,_,rfl,unpaired⟩
    · split
      · exact ⟨_,_,_,rfl,unpaired⟩
      · refine ⟨_,_,_,rfl,?_⟩
        simp only [low,Bool.and_eq_false_iff,decide_eq_false_iff_not]
        omega

theorem Whole.apart {rest : Text} (whole : Whole (c :: rest)) : Apart c (rest.flatMap unitsOf) := by
  intro isHigh d escaped more shape
  cases rest with
  | nil => cases shape
  | cons next later =>
    obtain ⟨first,mark,others,units,unpaired⟩ := unitsOf_lead whole.2.2.1 (whole.2.1 isHigh next later rfl)
    rw [List.flatMap_cons,units,List.cons_append] at shape
    rw [← (Prod.mk.inj (List.cons.inj shape).1).1]
    exact unpaired

theorem scanString_escaped (t : Text) (units : List (Nat × Bool)) (rest : Text) :
    scanString .plain units (t.flatMap escape ++ 0x22 :: rest) =
      some (joined (units.reverse ++ t.flatMap readUnits),rest) := by
  induction t generalizing units with
  | nil => simp [scanString]
  | cons c more ih =>
    rw [List.flatMap_cons,List.append_assoc,scanString_escape,ih]
    simp

-- What a reader makes of the escapes of any str: escaped surrogates that stand
-- side by side are joined.
def respell (t : Text) : Text := joined (t.flatMap readUnits)

theorem quoted_respelled (t : Text) (rest : Text) :
    scanString .plain [] ((quoted t).tail ++ rest) = some (respell t,rest) := by
  simpa [quoted,respell] using scanString_escaped t [] rest

theorem respell_whole (whole : Whole t) : respell t = t := by
  unfold respell
  induction t with
  | nil => rfl
  | cons c more ih =>
    have units : more.flatMap readUnits = more.flatMap unitsOf :=
      List.flatMap_congr fun d member => readUnits_code (whole.code d (List.mem_cons_of_mem _ member))
    rw [units] at ih
    rw [List.flatMap_cons,readUnits_code whole.1,units,joined_units whole.1 whole.apart,ih whole.2.2]

theorem quoted_roundtrip (whole : Whole t) (rest : Text) :
    scanString .plain [] ((quoted t).tail ++ rest) = some (t,rest) := by
  rw [quoted_respelled,respell_whole whole]

theorem quoted_cancel (left : Whole t) (right : Whole u)
    (same : quoted t ++ rest = quoted u ++ more) : t = u ∧ rest = more := by
  have tails : (quoted t).tail ++ rest = (quoted u).tail ++ more := by
    simpa [quoted] using same
  have read := quoted_roundtrip left rest
  rw [tails,quoted_roundtrip right more] at read
  obtain ⟨values,ends⟩ := Prod.mk.inj (Option.some.inj read)
  exact ⟨values.symm,ends.symm⟩

def Printable (c : Nat) : Prop := 0x20 ≤ c ∧ c ≤ 0x7e

instance (c : Nat) : Decidable (Printable c) := inferInstanceAs (Decidable (_ ∧ _))

theorem hexDigit_printable (small : n < 16) : Printable (hexDigit n) := by
  unfold Printable hexDigit; split <;> omega

theorem unicodeEscape_printable (n : Nat) : ∀ x ∈ unicodeEscape n, Printable x := by
  have digits : ∀ m, Printable (hexDigit (m % 16)) := fun m => hexDigit_printable (Nat.mod_lt _ (by decide))
  have slash : Printable 0x5c := by decide
  have letter : Printable 0x75 := by decide
  simp [unicodeEscape,digits,slash,letter]

theorem shortEscape_printable (found : shortEscape c = some letter) : Printable letter := by
  unfold shortEscape at found
  repeat' (split at found)
  all_goals first | (cases found; decide) | cases found

theorem escape_printable (c : Nat) : ∀ x ∈ escape c, Printable x := by
  intro x member
  unfold escape at member
  split at member
  · rename_i letter short
    rcases List.mem_cons.mp member with rfl | member
    · decide
    · rw [List.mem_singleton.mp member]; exact shortEscape_printable short
  · split at member
    · rename_i printable
      rw [List.mem_singleton.mp member]; exact printable
    · split at member
      · exact unicodeEscape_printable _ x member
      · rcases List.mem_append.mp member with member | member <;> exact unicodeEscape_printable _ x member

theorem quoted_printable (t : Text) : ∀ x ∈ quoted t, Printable x := by
  intro x member
  simp only [quoted,List.mem_cons,List.mem_append,List.mem_flatMap] at member
  rcases member with rfl | ⟨c,_,inside⟩ | rfl | none
  · decide
  · exact escape_printable c x inside
  · decide
  · cases none

theorem quoted_ascii (t : Text) : ∀ x ∈ quoted t, x < 0x80 := fun x member =>
  Nat.lt_of_le_of_lt (quoted_printable t x member).2 (by decide)

-- str.encode of a text that is ASCII.
def asciiBytes (t : Text) : List UInt8 := t.map UInt8.ofNat

theorem asciiBytes_back {t : Text} (ascii : ∀ x ∈ t, x < 0x80) : (asciiBytes t).map UInt8.toNat = t := by
  rw [asciiBytes,List.map_map]
  calc t.map (UInt8.toNat ∘ UInt8.ofNat) = t.map id := by
        refine List.map_congr_left fun x member => ?_
        have bound := ascii x member
        simp only [Function.comp_apply,UInt8.toNat_ofNat',id_eq]
        omega
    _ = t := List.map_id t

theorem asciiBytes_injective (left : ∀ x ∈ t, x < 0x80) (right : ∀ x ∈ u, x < 0x80)
    (same : asciiBytes t = asciiBytes u) : t = u := by
  rw [← asciiBytes_back left,same,asciiBytes_back right]

end JsonText
