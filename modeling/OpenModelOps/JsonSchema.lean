import OpenModelOps.JsonText

namespace JsonText

-- The part of JSON Schema with types, ranges and closed objects.
inductive Schema where
  | string
  | integer (minimum maximum : Int)
  | array (minItems maxItems : Nat) (items : Schema)
  | object (properties : List (String × Schema)) (required : List String) (additionalProperties : Bool)

namespace Schema
variable {ν : Type} {whole : ν → Option Int} {fields : List (Text × Json ν)} {value : Json ν}

def closed (names : List String) (fields : List (Text × Json ν)) : Bool :=
  fields.all fun entry => names.any fun name => decide (text name = entry.1)

-- whole reads the numbers that are integers.
mutual
def accepts (whole : ν → Option Int) : Schema → Json ν → Bool
  | .string,.str _ => true
  | .integer minimum maximum,.num n => (whole n).any fun k => decide (minimum ≤ k ∧ k ≤ maximum)
  | .array minItems maxItems items,.arr values =>
    decide (minItems ≤ values.length ∧ values.length ≤ maxItems) && values.all (accepts whole items)
  | .object properties required additionalProperties,.obj fields =>
    acceptsProperties whole properties fields && required.all (fun name => (field fields (text name)).isSome) &&
      (additionalProperties || closed (properties.map Prod.fst) fields)
  | _,_ => false
def acceptsProperties (whole : ν → Option Int) : List (String × Schema) → List (Text × Json ν) → Bool
  | [],_ => true
  | (name,schema) :: rest,fields =>
    (match field fields (text name) with
      | some value => accepts whole schema value
      | none => true) && acceptsProperties whole rest fields
end

theorem accepts_string : accepts whole .string value = true ↔ ∃ t, value = .str t := by
  cases value <;> simp [accepts]

theorem acceptsProperties_iff {properties : List (String × Schema)} : acceptsProperties whole properties fields = true ↔
    ∀ property ∈ properties, ∀ value, field fields (text property.1) = some value →
      accepts whole property.2 value = true := by
  induction properties with
  | nil => simp [acceptsProperties]
  | cons property rest ih =>
    rw [acceptsProperties,Bool.and_eq_true,ih,List.forall_mem_cons]
    apply and_congr_left'
    cases field fields (text property.1) with
    | none => simp
    | some value => simp

end Schema
end JsonText
