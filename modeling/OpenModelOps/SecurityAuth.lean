import OpenModelOps.FactoryRequests
import OpenModelOps.JsonRecords

namespace OpenModelOps.SecurityAuth
open JsonText PythonText FactoryRequests

abbrev Fields := List (Text × Json Number)

-- The JWT library and the identity provider at the time of a request; none is
-- an exception. The last field stands for str of a value from a token.
structure Outside where
  unverifiedHeader : String → Option Fields
  certificates : String → Option (Json Number)
  decode : (token : String) → (key : Json Number) → (algorithm audience issuer : String) → Option Fields
  shown : Json Number → String

abbrev Environment := String → Option String

def allowedAlgorithms : List String := ["RS256","ES256","EdDSA"]

def rstripSlash (s : String) : String := String.ofList (s.toList.reverse.dropWhile (· == '/')).reverse

-- The first key of that id. A key before it that is no object or has no id
-- raises, as does the end of the list.
def signingKey (kid : Text) : List (Json Number) → Option (Json Number)
  | [] => none
  | .obj item :: rest => match field item (text "kid") with
    | none => none
    | some (.str held) => if held = kid then some (.obj item) else signingKey kid rest
    | some _ => signingKey kid rest
  | _ :: _ => none

-- The keys that the issuer publishes.
def publishedKeys (outside : Outside) (issuer : String) : Option (List (Json Number)) := do
  let certificates ← outside.certificates (rstripSlash issuer ++ "/protocol/openid-connect/certs")
  let fields ← certificates.asObject
  let keys ← field fields (text "keys")
  keys.asArray

-- OIDCVerifier.verify up to the decoded payload; none is its
-- AuthenticationError. The library lets through no key id that is not a string.
def verifiedClaims (outside : Outside) (issuer audience token : String) : Option Fields := do
  let header ← outside.unverifiedHeader token
  let algorithm ← (field header (text "alg")).bind Json.asString
  if algorithm ∉ allowedAlgorithms then none
  else
    let keys ← publishedKeys outside issuer
    match field header (text "kid") with
    | some (.str kid) => do
      let key ← signingKey kid keys
      outside.decode token key algorithm audience (rstripSlash issuer)
    | _ => none

-- d.get(name, {}), on which get is called next.
def child (fields : Fields) (name : Text) : Option Fields :=
  match field fields name with
  | none => some []
  | some value => value.asObject

def hashable : Json Number → Bool
  | .arr _ => false
  | .obj _ => false
  | _ => true

-- frozenset(realm_roles + client_roles), less what is no string. Two strings
-- are taken apart into characters.
def rolesOf : Json Number → Json Number → Option (List String)
  | .arr realm,.arr client =>
    if (realm ++ client).all hashable then some ((realm ++ client).filterMap Json.asString) else none
  | .str realm,.str client => some ((realm ++ client).filterMap fun c => untext [c])
  | _,_ => none

-- The rest of OIDCVerifier.verify, where an exception is not caught.
def identityOf (outside : Outside) (audience : String) (payload : Fields) : Option Identity := do
  let realm ← child payload (text "realm_access")
  let resource ← child payload (text "resource_access")
  let client ← child resource (text audience)
  let roles ← rolesOf ((field realm (text "roles")).getD (.arr [])) ((field client (text "roles")).getD (.arr []))
  let subject ← field payload (text "sub")
  return ⟨outside.shown subject,roles,outside.shown ((field payload (text "tenant_id")).getD (.str (text "default")))⟩

def developerRoles : List String :=
  ["factory-admin","gate-evaluator","release-approver","sre-reader","sre-proposer","sre-approver","sre-executor",
    "judge-reviewer"]

def developer (env : Environment) : Identity :=
  ⟨(env "DEV_ACTOR").getD "local-developer",developerRoles,(env "DEV_TENANT").getD "local"⟩

-- authorization.removeprefix("Bearer ") of a header that starts so.
def bearer (authorization : Option String) : Option String :=
  match authorization with
  | none => none
  | some header => if startsWith header "Bearer " then some (String.ofList (header.toList.drop 7)) else none

-- A setting that is there and is not empty.
def configured (env : Environment) (name : String) : Option String := (env name).filter fun value => decide (value ≠ "")

def currentIdentity (env : Environment) (outside : Outside) (authorization : Option String) : Except Failure Identity :=
  let mode := (env "AUTH_MODE").getD "development"
  if mode = "development" then
    if (env "FACTORY_ENV").getD "development" = "production" then
      .error ⟨503,"development authentication is disabled in production"⟩
    else .ok (developer env)
  else if mode ≠ "oidc" then .error ⟨503,"unsupported authentication mode"⟩
  else match configured env "OIDC_ISSUER",configured env "OIDC_AUDIENCE" with
    | some issuer,some audience => match bearer authorization with
      | none => .error ⟨401,"bearer token required"⟩
      | some token => match verifiedClaims outside issuer audience token with
        | none => .error ⟨401,"invalid bearer token"⟩
        | some payload => match identityOf outside audience payload with
          | none => .error ⟨500,"Internal Server Error"⟩
          | some identity => .ok identity
    | _,_ => .error ⟨503,"OIDC is not configured"⟩

structure Signed (outside : Outside) (issuer audience token : String) (payload : Fields) : Prop where
  decoded : ∃ header algorithm kid keys key, outside.unverifiedHeader token = some header ∧
    (field header (text "alg")).bind Json.asString = some algorithm ∧ algorithm ∈ allowedAlgorithms ∧
    field header (text "kid") = some (.str kid) ∧ publishedKeys outside issuer = some keys ∧ key ∈ keys ∧
    signingKey kid keys = some key ∧ outside.decode token key algorithm audience (rstripSlash issuer) = some payload

structure Verified (env : Environment) (outside : Outside) (authorization : Option String) (identity : Identity) :
    Prop where
  token : ∃ issuer audience token payload, env "AUTH_MODE" = some "oidc" ∧ env "OIDC_ISSUER" = some issuer ∧
    env "OIDC_AUDIENCE" = some audience ∧ bearer authorization = some token ∧
    Signed outside issuer audience token payload ∧ identityOf outside audience payload = some identity

theorem signingKey_mem (found : signingKey kid keys = some key) : key ∈ keys := by
  induction keys with
  | nil => cases found
  | cons item rest ih =>
    unfold signingKey at found
    split at found
    · cases found
    · rename_i first later listed
      cases listed
      split at found
      · cases found
      · split at found
        · cases Option.some.inj found
          exact List.mem_cons_self
        · exact List.mem_cons_of_mem _ (ih found)
      · exact List.mem_cons_of_mem _ (ih found)
    · cases found

theorem verifiedClaims_signed (verified : verifiedClaims outside issuer audience token = some payload) :
    Signed outside issuer audience token payload := by
  unfold verifiedClaims at verified
  obtain ⟨header,unverified,verified⟩ := Option.bind_eq_some_iff.mp verified
  obtain ⟨algorithm,named,verified⟩ := Option.bind_eq_some_iff.mp verified
  split at verified
  · cases verified
  · rename_i allowed
    obtain ⟨keys,published,verified⟩ := Option.bind_eq_some_iff.mp verified
    split at verified
    · rename_i kid identified
      obtain ⟨key,found,decoded⟩ := Option.bind_eq_some_iff.mp verified
      exact ⟨header,algorithm,kid,keys,key,unverified,named,not_not.mp allowed,identified,published,
        signingKey_mem found,found,decoded⟩
    · cases verified

theorem configured_some {env : Environment} (given : configured env name = some value) : env name = some value := by
  unfold configured at given
  rw [Option.filter_eq_some_iff] at given
  exact given.1

theorem currentIdentity_cases {env : Environment} (identified : currentIdentity env outside authorization = .ok identity) :
    ((env "AUTH_MODE").getD "development" = "development" ∧ (env "FACTORY_ENV").getD "development" ≠ "production" ∧
      identity = developer env) ∨ Verified env outside authorization identity := by
  unfold currentIdentity at identified
  dsimp only at identified
  split at identified
  · rename_i development
    split at identified
    · cases identified
    · rename_i outsideProduction
      cases Except.ok.inj identified
      exact .inl ⟨development,outsideProduction,rfl⟩
  · split at identified
    · cases identified
    · rename_i other oidc
      have mode : env "AUTH_MODE" = some "oidc" := by
        cases given : env "AUTH_MODE" with
        | none =>
          rw [given] at oidc
          exact absurd (by decide) oidc
        | some value =>
          rw [given] at oidc
          exact congrArg some (not_not.mp oidc)
      split at identified
      · rename_i issuer audience issued meant
        split at identified
        · cases identified
        · rename_i token carried
          split at identified
          · cases identified
          · rename_i payload verified
            split at identified
            · cases identified
            · rename_i named known
              cases Except.ok.inj identified
              exact .inr ⟨issuer,audience,token,payload,mode,configured_some issued,configured_some meant,carried,
                verifiedClaims_signed verified,known⟩
      · cases identified

theorem different_verified {env : Environment} (first : currentIdentity env outside authorization = .ok identity)
    (second : currentIdentity env elsewhere other = .ok stranger) (different : identity.subject ≠ stranger.subject) :
    Verified env outside authorization identity := by
  rcases currentIdentity_cases first with ⟨development,_,rfl⟩ | verified
  · rcases currentIdentity_cases second with ⟨_,_,rfl⟩ | verified
    · exact absurd rfl different
    · obtain ⟨_,_,_,_,oidc,_⟩ := verified.token
      rw [oidc] at development
      exact absurd development (by decide)
  · exact verified

theorem role_verified {env : Environment} (identified : currentIdentity env outside authorization = .ok identity)
    (held : role ∈ identity.roles) (foreign : role ∉ developerRoles) : Verified env outside authorization identity := by
  rcases currentIdentity_cases identified with ⟨_,_,rfl⟩ | verified
  · exact absurd held foreign
  · exact verified

def keycloak (roles : List String) : Outside where
  unverifiedHeader _ := some [(text "alg",.str (text "RS256")),(text "kid",.str (text "k1"))]
  certificates _ := some (.obj [(text "keys",.arr [.obj [(text "kid",.str (text "k1"))]])])
  decode token _ _ _ _ := some [(text "sub",.str (text token)),
    (text "realm_access",.obj [(text "roles",.arr (roles.map fun role => .str (text role)))])]
  shown value := value.asString.getD ""

def behindKeycloak : Environment := fun name =>
  [("AUTH_MODE","oidc"),("OIDC_ISSUER","https://id"),("OIDC_AUDIENCE","openmodelops")].lookup name

end OpenModelOps.SecurityAuth
