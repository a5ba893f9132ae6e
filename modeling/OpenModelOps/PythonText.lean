import Mathlib.Data.List.Basic

namespace PythonText

def startsWith (s lead : String) : Bool := lead.toList.isPrefixOf s.toList

-- str.isspace, by code point.
def spaces : List Nat :=
  [0x9,0xa,0xb,0xc,0xd,0x1c,0x1d,0x1e,0x1f,0x20,0x85,0xa0,0x1680,0x2000,0x2001,
   0x2002,0x2003,0x2004,0x2005,0x2006,0x2007,0x2008,0x2009,0x200a,0x2028,0x2029,
   0x202f,0x205f,0x3000]

def isSpace (c : Char) : Bool := spaces.contains c.toNat

-- `not s.strip()`.
def blank (s : String) : Bool := s.toList.all isSpace

-- The zero of each run of ten decimal digits (category Nd, Unicode 15.0).
def digitZeros : List Nat :=
  [0x30,0x660,0x6f0,0x7c0,0x966,0x9e6,0xa66,0xae6,0xb66,0xbe6,0xc66,0xce6,0xd66,0xde6,
   0xe50,0xed0,0xf20,0x1040,0x1090,0x17e0,0x1810,0x1946,0x19d0,0x1a80,0x1a90,0x1b50,
   0x1bb0,0x1c40,0x1c50,0xa620,0xa8d0,0xa900,0xa9d0,0xa9f0,0xaa50,0xabf0,0xff10,
   0x104a0,0x10d30,0x11066,0x110f0,0x11136,0x111d0,0x112f0,0x11450,0x114d0,0x11650,
   0x116c0,0x11730,0x118e0,0x11950,0x11c50,0x11d50,0x11da0,0x11f50,0x16a60,0x16ac0,
   0x16b50,0x1d7ce,0x1d7d8,0x1d7e2,0x1d7ec,0x1d7f6,0x1e140,0x1e2f0,0x1e4f0,0x1e950,
   0x1fbf0]

def digitValue (c : Char) : Option Nat :=
  (digitZeros.find? (fun base => decide (base ≤ c.toNat ∧ c.toNat < base + 10))).map (c.toNat - ·)

-- int() skips only the ASCII white space of C beside the non-ASCII spaces.
def intSpace (c : Char) : Bool :=
  if c.toNat < 127 then c.toNat == 0x20 || (decide (0x9 ≤ c.toNat) && decide (c.toNat ≤ 0xd)) else isSpace c

-- Decimal digits with single underscores between them.
def intDigits : List Char → Option (List Nat)
  | [] => none
  | c :: rest => match digitValue c with
    | none => none
    | some d => match rest with
      | [] => some [d]
      | u :: more => if u = '_' then (intDigits more).map (d :: ·) else (intDigits (u :: more)).map (d :: ·)

def maxStrDigits : Nat := 4300

def intMagnitude (cs : List Char) : Option Nat :=
  match intDigits cs with
  | some digits => if digits.length ≤ maxStrDigits then some (digits.foldl (10 * · + ·) 0) else none
  | none => none

def trimmed (cs : List Char) : List Char := ((cs.dropWhile intSpace).reverse.dropWhile intSpace).reverse

-- int(s) on a str; none is its ValueError.
def parseInt (s : String) : Option Int :=
  match trimmed s.toList with
  | [] => none
  | sign :: rest =>
    if sign = '-' then (intMagnitude rest).map (fun n : Nat => -(Int.ofNat n))
    else if sign = '+' then (intMagnitude rest).map Int.ofNat
    else (intMagnitude (sign :: rest)).map Int.ofNat

theorem intDigits_chars (parsed : intDigits cs = some digits) :
    ∀ c ∈ cs, digitValue c ≠ none ∨ c = '_' := by
  fun_induction intDigits cs generalizing digits with
  | case1 => cases parsed
  | case2 => cases parsed
  | case3 c d value => simp [value]
  | case4 c d value more ih =>
    obtain ⟨tail,found,_⟩ := Option.map_eq_some_iff.mp parsed
    have inner := ih found
    intro x member
    rcases List.mem_cons.mp member with rfl | member
    · exact .inl (by simp [value])
    · rcases List.mem_cons.mp member with rfl | member
      · exact .inr rfl
      · exact inner x member
  | case5 c d value u more plain ih =>
    obtain ⟨tail,found,_⟩ := Option.map_eq_some_iff.mp parsed
    intro x member
    rcases List.mem_cons.mp member with rfl | member
    · exact .inl (by simp [value])
    · exact ih found x member

theorem intMagnitude_chars (parsed : intMagnitude cs = some n) :
    ∀ c ∈ cs, digitValue c ≠ none ∨ c = '_' := by
  unfold intMagnitude at parsed
  split at parsed
  · rename_i digits found; exact intDigits_chars found
  · cases parsed

theorem mem_trimmed (member : c ∈ cs) : c ∈ trimmed cs ∨ intSpace c = true := by
  have skip : ∀ (l : List Char), c ∈ l → c ∈ l.dropWhile intSpace ∨ intSpace c = true := by
    intro l inside
    induction l with
    | nil => cases inside
    | cons head rest ih =>
      rw [List.dropWhile_cons]
      split
      · rename_i space
        rcases List.mem_cons.mp inside with rfl | inside
        · exact .inr space
        · exact ih inside
      · exact .inl inside
  rcases skip cs member with kept | space
  · rcases skip _ (List.mem_reverse.mpr kept) with kept | space
    · exact .inl (List.mem_reverse.mpr kept)
    · exact .inr space
  · exact .inr space

theorem parseInt_chars (parsed : parseInt s = some n) :
    ∀ c ∈ s.toList, intSpace c = true ∨ c = '-' ∨ c = '+' ∨ c = '_' ∨ digitValue c ≠ none := by
  intro c member
  rcases mem_trimmed member with kept | space
  swap
  · exact .inl space
  unfold parseInt at parsed
  split at parsed
  · cases parsed
  · rename_i sign rest shape
    have digits : ∀ {m}, intMagnitude rest = some m → c ∈ rest → c = '_' ∨ digitValue c ≠ none :=
      fun found inside => (intMagnitude_chars found c inside).symm
    rw [shape] at kept
    split at parsed
    · rename_i minus
      obtain ⟨m,found,_⟩ := Option.map_eq_some_iff.mp parsed
      rcases List.mem_cons.mp kept with rfl | inside
      · exact .inr (.inl minus)
      · exact .inr (.inr (.inr (digits found inside)))
    · split at parsed
      · rename_i plus
        obtain ⟨m,found,_⟩ := Option.map_eq_some_iff.mp parsed
        rcases List.mem_cons.mp kept with rfl | inside
        · exact .inr (.inr (.inl plus))
        · exact .inr (.inr (.inr (digits found inside)))
      · obtain ⟨m,found,_⟩ := Option.map_eq_some_iff.mp parsed
        exact .inr (.inr (.inr (intMagnitude_chars found c kept).symm))

theorem parseInt_no_dot (parsed : parseInt s = some n) : '.' ∉ s.toList := by
  intro member
  rcases parseInt_chars parsed '.' member with space | minus | plus | under | digit
  · revert space; decide
  · revert minus; decide
  · revert plus; decide
  · revert under; decide
  · exact digit (by decide)

example : parseInt " +1_0\u2003" = some 10 ∧ parseInt "1__0" = none ∧ parseInt "\u0665" = some 5 := by decide

-- An aware UTC datetime, in microseconds since the epoch.
abbrev Instant := Int

-- Year, month and day of a day number counted from the epoch.
def civil (days : Int) : Int × Int × Int :=
  let shifted := days + 719468
  let era := shifted / 146097
  let dayOfEra := shifted % 146097
  let yearOfEra := (dayOfEra - dayOfEra / 1460 + dayOfEra / 36524 - dayOfEra / 146096) / 365
  let dayOfYear := dayOfEra - (365 * yearOfEra + yearOfEra / 4 - yearOfEra / 100)
  let shiftedMonth := (5 * dayOfYear + 2) / 153
  let month := if shiftedMonth < 10 then shiftedMonth + 3 else shiftedMonth - 9
  (yearOfEra + era * 400 + (if month ≤ 2 then 1 else 0),month,
    dayOfYear - (153 * shiftedMonth + 2) / 5 + 1)

def padded (width : Nat) (n : Int) : String :=
  let digits := (toString n.toNat).toList
  String.ofList (List.replicate (width - digits.length) '0' ++ digits)

-- datetime.isoformat of a UTC time; the fraction is left out when it is zero.
def isoformat (t : Instant) : String :=
  let micro := t % 1000000
  let second := t / 1000000
  let (year,month,day) := civil (second / 86400)
  let inDay := second % 86400
  padded 4 year ++ "-" ++ padded 2 month ++ "-" ++ padded 2 day ++ "T" ++ padded 2 (inDay / 3600) ++ ":" ++
    padded 2 (inDay / 60 % 60) ++ ":" ++ padded 2 (inDay % 60) ++
    (if micro = 0 then "" else "." ++ padded 6 micro) ++ "+00:00"

def minutes (n : Int) : Int := n * 60 * 1000000

example : isoformat 1767225600123456 = "2026-01-01T00:00:00.123456+00:00" := by decide +kernel

end PythonText
