import Mathlib.Data.List.MinMax
import OpsCopilot.Lib.Fallible
import OpsCopilot.Lib.KeyRing
import OpsCopilot.Lib.PyCompare
import OpsCopilot.Lib.PyDict
import OpsCopilot.Lib.PyString
import OpsCopilot.Model.Database

/-!
# API keys

Who may call the API: issuing a key, `_ensure_api_key` of the seeding, the rotation of all keys,
and `require_tenant`, which turns the `Authorization` header into a tenant.
-/

namespace OpsCopilot

open Python Fallible KeyRing

/-! ### Tables -/

structure Tenant where
  id : String
  name : String
deriving DecidableEq

structure ApiCredential where
  id : String
  tenantId : String
  keyHash : String
  keyPrefix : String
  active : Bool
  createdAt : Timestamp
  lastUsedAt : Option Timestamp
  revokedAt : Option Timestamp

/-- The tables that the credential code reads and writes. -/
structure CredentialStore where
  tenants : List Tenant
  menuItems : List MenuItem
  ingredients : List Ingredient
  credentials : List ApiCredential

/-- What is raised by the files and services around a rotation. -/
inductive OutsideError where
  | osError
  | botoCoreError
  | other

inductive CredentialError where
  | valueError (message : String)
  | authenticationError (message : String)
  | runtimeError (message : String)
  | integrityError
  | multipleResultsFound
  | outside (e : OutsideError)

/-! ### Keys -/

/-- A text that `secrets.token_urlsafe(32)` can return. -/
structure UrlSafeToken where
  text : String
  length_eq : text.length = 43
  safe : ∀ c ∈ text.toList, c.isAlphanum ∨ c = '-' ∨ c = '_'

/-- What is drawn for a new credential. -/
structure KeyDraw where
  rawKey : UrlSafeToken
  id : String

section Keys

variable (O : Outside) (pepper : String)

def hashApiKey (rawKey : String) : Except CredentialError String :=
  if rawKey = "" then .error (.valueError "raw_key must be a non-empty string")
  else .ok (O.sha256 (pepper ++ rawKey))

/-- The row of a new key. -/
def newCredential (tenantId : String) (draw : KeyDraw) (now : Timestamp) :
    Except CredentialError ApiCredential :=
  (hashApiKey O pepper draw.rawKey.text).map (fun keyHash =>
    ⟨draw.id, tenantId, keyHash, String.ofList (draw.rawKey.text.toList.take 8), true, now, none,
      none⟩)

/-- An insert: the tenant exists, and neither the identifier nor the hash is taken. -/
def CredentialStore.insert (st : CredentialStore) (c : ApiCredential) :
    Except CredentialError CredentialStore :=
  if (∀ t ∈ st.tenants, t.id ≠ c.tenantId) ∨
      ∃ r ∈ st.credentials, r.id = c.id ∨ r.keyHash = c.keyHash then .error .integrityError
  else .ok { st with credentials := st.credentials ++ [c] }

def issueKey (tenantId : String) (draw : KeyDraw) (now : Timestamp) (st : CredentialStore) :
    Except CredentialError (CredentialStore × String) := do
  let credential ← newCredential O pepper tenantId draw now
  let st ← st.insert credential
  return (st, draw.rawKey.text)

/-- `_ensure_api_key`: a new key for a tenant that has no active one. -/
def ensureApiKey (tenantId : String) (draw : KeyDraw) (now : Timestamp) (st : CredentialStore) :
    Except CredentialError (CredentialStore × Option String) :=
  if ∃ c ∈ st.credentials, c.tenantId = tenantId ∧ c.active = true then .ok (st, none)
  else (issueKey O pepper tenantId draw now st).map (fun r => (r.1, some r.2))

/-! ### Authentication -/

/-- The update of `last_used_at`. -/
def CredentialStore.touch (st : CredentialStore) (id : String) (now : Timestamp) :
    CredentialStore :=
  { st with
    credentials := st.credentials.map
      (fun c => if c.id = id then { c with lastUsedAt := some now } else c) }

def resolveTenantFromKey (rawKey : String) (now : Timestamp) (st : CredentialStore) :
    Except CredentialError (CredentialStore × String) := do
  raiseIf (strip rawKey = "") (.authenticationError "missing API key")
  let keyHash ← hashApiKey O pepper (strip rawKey)
  match st.credentials.filter (fun c => c.keyHash = keyHash) with
  | [] => throw (.authenticationError "invalid API key")
  | [credential] =>
    raiseIf (credential.active = false ∨ credential.revokedAt ≠ none)
      (.authenticationError "API key has been revoked")
    return (st.touch credential.id now, credential.tenantId)
  | _ => throw .multipleResultsFound

/-- How `require_tenant` refuses a request: by a response or by an error that nobody catches. -/
inductive Refusal where
  | http (statusCode : ℕ) (detail : String)
  | raised (e : CredentialError)

def bearer : String := "Bearer "

/-- `removeprefix("Bearer ")` of a header that starts with it. -/
def bearerToken (authorization : String) : Option String :=
  if bearer.toList.isPrefixOf authorization.toList then
    some (String.ofList (authorization.toList.drop bearer.length))
  else none

def requireTenant (authorization : Option String) (now : Timestamp) (st : CredentialStore) :
    Except Refusal (CredentialStore × String) :=
  match authorization.bind bearerToken with
  | none => .error (.http 401 "missing or malformed Authorization header")
  | some token =>
    (resolveTenantFromKey O pepper (strip token) now st).mapError (fun e =>
      match e with
      | .authenticationError message => .http 401 message
      | e => .raised e)

/-! ### Rotation -/

/-- What the fixtures say of a tenant. -/
structure Fixture where
  apiKey : String
  menuItemId : String
  menuItemPrice : Sql.Column 10 2
  ingredientId : String
  ingredientPrice : Sql.Column 10 2

/-- What a rotation is going to commit and to publish. -/
structure Rotation where
  tenantIds : List String
  credentials : List ApiCredential
  fixtures : Mapping Fixture

variable (printable : Char → Bool)

/-- `tenants_by_name[name]`: of two tenants with one name the later one. -/
def CredentialStore.tenantNamed (st : CredentialStore) (name : String) : Option Tenant :=
  st.tenants.reverse.find? (fun t => t.name = name)

/-- The first active menu item of a tenant by its identifier. -/
def CredentialStore.firstMenuItem (st : CredentialStore) (tenantId : String) : Option MenuItem :=
  (st.menuItems.filter (fun m => m.tenantId = tenantId ∧ m.active = true)).argmin MenuItem.id

def CredentialStore.firstIngredient (st : CredentialStore) (tenantId : String) :
    Option Ingredient :=
  (st.ingredients.filter (fun i => i.tenantId = tenantId)).argmin Ingredient.id

def noFixtures (name : String) : CredentialError :=
  .runtimeError ("Cannot write fixtures; tenant " ++ String.ofList (reprStr printable name) ++
    " needs an active menu item and an ingredient.")

/-- One round of the loop over the configured tenants. -/
def rotateTenant (now : Timestamp) (st : CredentialStore) (rotation : Rotation)
    (config : String × KeyDraw) : Except CredentialError Rotation :=
  match st.tenantNamed config.1 with
  | none => .error (.runtimeError
      ("Cannot rotate keys; configured tenants are missing: " ++ config.1))
  | some tenant =>
    match st.firstMenuItem tenant.id, st.firstIngredient tenant.id with
    | some menuItem, some ingredient => do
      let credential ← newCredential O pepper tenant.id config.2 now
      return ⟨rotation.tenantIds ++ [tenant.id], rotation.credentials ++ [credential],
        rotation.fixtures.set (.str tenant.id)
          ⟨config.2.rawKey.text, menuItem.id, menuItem.currentPrice, ingredient.id,
            ingredient.currentPrice⟩⟩
    | _, _ => .error (noFixtures printable config.1)

/-- `_tenant_fixtures`, for the configured names and the keys that are drawn for them. -/
def tenantFixtures (configured : List (String × KeyDraw)) (now : Timestamp)
    (st : CredentialStore) : Except CredentialError Rotation := do
  let missing := (configured.map Prod.fst).filter (fun name => (st.tenantNamed name).isNone)
  raiseIf (missing ≠ []) (.runtimeError
    ("Cannot rotate keys; configured tenants are missing: " ++ ", ".intercalate missing))
  configured.foldlM (rotateTenant O pepper printable now st) ⟨[], [], []⟩

/-- The update that revokes the active keys of the tenants. -/
def CredentialStore.revoke (st : CredentialStore) (tenantIds : List String) (now : Timestamp) :
    CredentialStore :=
  { st with
    credentials := st.credentials.map (fun c =>
      if c.tenantId ∈ tenantIds ∧ c.active = true then
        { c with active := false, revokedAt := some now }
      else c) }

/-- The commit of the update and of the new rows. -/
def CredentialStore.commitRotation (st : CredentialStore) (rotation : Rotation) (now : Timestamp) :
    Except CredentialError CredentialStore :=
  rotation.credentials.foldlM CredentialStore.insert (st.revoke rotation.tenantIds now)

/-- Where the fixtures go, and what happens there. -/
structure RotationTarget where
  fixturesPath : Option String
  secretArn : Option String
  /-- The name of the temporary file. -/
  pendingPath : String
  pendingFails : Option OutsideError
  publishFails : Option OutsideError

/-- `_write_pending_fixtures`, before the commit and for a file only. -/
def RotationTarget.writePending (target : RotationTarget) : Except CredentialError Unit :=
  match target.pendingFails, target.fixturesPath with
  | some e, some _ => .error (.outside e)
  | _, _ => .ok ()

/-- `os.replace` and `_publish_fixtures_secret`, after the commit. -/
def RotationTarget.publish (target : RotationTarget) : Except CredentialError Unit :=
  match target.publishFails, target.fixturesPath with
  | none, _ => .ok ()
  | some .osError, some _ => .error (.runtimeError
      ("Keys were rotated in the database, but the fixtures file could not be replaced. " ++
        "Recover the new keys from " ++ target.pendingPath ++ "."))
  | some .botoCoreError, none => .error (.runtimeError
      ("Tenant keys were rotated in the database, but the fixture secret could not be updated. " ++
        "Rerun this command to rotate keys and retry publishing the matching fixtures."))
  | some e, _ => .error (.outside e)

/-- The transaction of `rotate_keys`: what it commits, or the error that rolls it back. -/
def rotationTransaction (configured : List (String × KeyDraw)) (now : Timestamp)
    (target : RotationTarget) (st : CredentialStore) :
    Except CredentialError (CredentialStore × Rotation) := do
  raiseIf (target.fixturesPath.isNone = target.secretArn.isNone)
    (.valueError "Provide exactly one of fixtures_path or secret_arn.")
  let rotation ← tenantFixtures O pepper printable configured now st
  target.writePending
  let st ← st.commitRotation rotation now
  return (st, rotation)

/-- What `rotate_keys` returns or raises, and the tables that it leaves. -/
def rotateKeys (configured : List (String × KeyDraw)) (now : Timestamp) (target : RotationTarget)
    (st : CredentialStore) : Except CredentialError ℕ × CredentialStore :=
  match rotationTransaction O pepper printable configured now target st with
  | .error e => (.error e, st)
  | .ok (st, rotation) => (target.publish.map (fun _ => rotation.fixtures.length), st)

/-! ### Runs -/

/-- One transaction on the credentials. `_ensure_api_key` looks and issues in two of them, so that
with others in between it is no step or an `issue`. -/
inductive CredentialAction where
  | issue (tenantId : String) (draw : KeyDraw) (now : Timestamp)
  | ensure (tenantId : String) (draw : KeyDraw) (now : Timestamp)
  | rotate (configured : List (String × KeyDraw)) (now : Timestamp) (target : RotationTarget)
  | request (authorization : Option String) (now : Timestamp)

/-- The tables, and what was issued and revoked so far. -/
structure CredentialState where
  store : CredentialStore
  history : List (KeyEvent String String)

def Rotation.events (rotation : Rotation) (configured : List (String × KeyDraw)) :
    List (KeyEvent String String) :=
  .revoked rotation.tenantIds ::
    (rotation.tenantIds.zip configured).map (fun p => .issued p.1 p.2.2.rawKey.text)

def CredentialAction.step (s : CredentialState) : CredentialAction → CredentialState
  | .issue tenantId draw now =>
    match issueKey O pepper tenantId draw now s.store with
    | .error _ => s
    | .ok (st, rawKey) => ⟨st, s.history ++ [.issued tenantId rawKey]⟩
  | .ensure tenantId draw now =>
    match ensureApiKey O pepper tenantId draw now s.store with
    | .error _ => s
    | .ok (st, rawKey) =>
      ⟨st, s.history ++ (rawKey.map (fun key => KeyEvent.issued tenantId key)).toList⟩
  | .rotate configured now target =>
    match rotationTransaction O pepper printable configured now target s.store with
    | .error _ => s
    | .ok (st, rotation) => ⟨st, s.history ++ rotation.events configured⟩
  | .request authorization now =>
    match requireTenant O pepper authorization now s.store with
    | .error _ => s
    | .ok (st, _) => ⟨st, s.history⟩

def CredentialState.run (s : CredentialState) (actions : List CredentialAction) :
    CredentialState :=
  actions.foldl (CredentialAction.step O pepper printable) s

end Keys

/-- No key has been issued yet. -/
def CredentialStore.start (st : CredentialStore) : CredentialState :=
  ⟨{ st with credentials := [] }, []⟩

end OpsCopilot
