import Mathlib.Data.List.Sort
import Mathlib.Data.String.Basic
import OpsCopilot.Lib.Fallible
import OpsCopilot.Lib.PyRepr
import OpsCopilot.Lib.RowSecurity

/-!
# Configuring row-level security

`configure_rls` and `verify_rls`: which policies they put on the tables of the tenants, and what
they check of the roles and of the tables before and after.
-/

namespace OpsCopilot

open Python Fallible RowSecurity

/-! ### The configuration -/

def tenantTable : String := "tenants"

def tenantScopedTables : List String :=
  ["suppliers", "ingredients", "supplier_skus", "supplier_prices", "menu_items", "recipes",
    "recipe_ingredients", "inventory_levels", "invoices", "invoice_lines", "sales_orders",
    "sales_order_lines", "staff_shifts", "order_volume", "waste_records", "decisions", "events",
    "tool_execution_log", "evaluation_records", "approval_requests", "idempotency_keys",
    "work_requests"]

def allRlsTables : List String := tenantTable :: tenantScopedTables

def policyName : String := "tenant_isolation"

def apiCredentials : String := "api_credentials"

/-- The texts of a row by its columns. A column that is null is not in it. -/
abbrev ColumnTexts := List (String × String)

/-- The tenants have their own name in another column than the rest. -/
def tenantColumn (table : String) : String := if table = tenantTable then "id" else "tenant_id"

/-- `<column> = current_setting('app.current_tenant', true)`. -/
def isCurrentTenant (table : String) (setting : Option String) (row : ColumnTexts) : Bool :=
  setting.any (fun tenant => row.lookup (tenantColumn table) = some tenant)

inductive RlsError where
  | valueError (message : String)
  | runtimeError (message : String)
  | assertionError (message : String)
  /-- The database refuses a statement. -/
  | database

/-- The system tables, and who is connected. -/
@[ext] structure Catalog where
  currentUser : String
  roles : List Role
  tables : String → Option (Protection ColumnTexts)

section Configuration

variable (printable alpha alnum : Char → Bool) (reserved : String → Bool) (appRole : String)

/-- `POLICY_ROLES`, without a duplicate. -/
def policyRoles : List String := [appRole, "rls_admin"].eraseDups

/-! ### Validation -/

def invalidIdentifier (name value : String) : RlsError :=
  .valueError ("Invalid SQL identifier for " ++ quoted printable name ++ ": " ++
    quoted printable value)

def validateSqlIdentifier (value name : String) : Except RlsError String := do
  raiseIf (value = "") (.valueError (name ++ " cannot be empty"))
  raiseIf (value.toList.filter (· ≠ '_') = [] ∨
      (value.toList.filter (· ≠ '_')).all alnum = false)
    (invalidIdentifier printable name value)
  raiseIf (value.toList.head?.any (fun c => alpha c || c = '_') = false)
    (invalidIdentifier printable name value)
  return value

def Catalog.findRole (cat : Catalog) (name : String) : Option Role :=
  cat.roles.find? (fun r => r.name = name)

/-- The role must not bypass the policies by its attributes. -/
def validateRoleSecurityProperties (cat : Catalog) (name : String) : Except RlsError Unit :=
  match cat.findRole name with
  | none => .error .database
  | some role => do
    raiseIf (role.superuser = true) (.runtimeError
      ("Refusing to configure RLS with SUPERUSER role: " ++ quoted printable name))
    raiseIf (role.bypassRls = true) (.runtimeError
      ("Refusing to configure RLS with BYPASSRLS role: " ++ quoted printable name))
    raiseIf (role.canLogin = false) (.runtimeError
      ("Role " ++ quoted printable name ++ " cannot LOGIN; check your database role setup."))

def validateConfigurationRole (cat : Catalog) : Except RlsError Unit := do
  raiseIf (cat.currentUser = "postgres") (.runtimeError
    ("Refusing to configure RLS while connected as the PostgreSQL superuser 'postgres'. " ++
      "Use the non-superuser 'rls_admin' role."))
  validateRoleSecurityProperties printable cat cat.currentUser

/-- One round of the loop of `_validate_roles`. -/
def validatePolicyRole (cat : Catalog) (name : String) : Except RlsError Unit := do
  let _ ← validateSqlIdentifier printable alpha alnum name "policy role"
  raiseIf ((cat.findRole name).isNone)
    (.runtimeError ("Required PostgreSQL role does not exist: " ++ quoted printable name))
  validateRoleSecurityProperties printable cat name

def validateRoles (cat : Catalog) : Except RlsError Unit :=
  (policyRoles appRole).forM (validatePolicyRole printable alpha alnum cat)

def validateTable (cat : Catalog) (table : String) : Except RlsError Unit := do
  let _ ← validateSqlIdentifier printable alpha alnum table "table name"
  raiseIf ((cat.tables table).isNone)
    (.runtimeError ("Required table does not exist: public." ++ table))

def validateTables (cat : Catalog) : Except RlsError Unit :=
  allRlsTables.forM (validateTable printable alpha alnum cat)

/-- What both `configure_rls` and `verify_rls` begin with. -/
def validateDatabase (cat : Catalog) : Except RlsError Unit := do
  validateConfigurationRole printable cat
  validateRoles printable alpha alnum appRole cat
  validateTables printable alpha alnum cat

def requireCredentialsTable (cat : Catalog) : Except RlsError Unit :=
  raiseIf ((cat.tables apiCredentials).isNone)
    (.runtimeError "Required authentication table does not exist: public.api_credentials")

/-! ### Policies -/

/-- A statement on a table that only its owner may run. -/
def Catalog.alterTable (cat : Catalog) (table : String)
    (f : Protection ColumnTexts → Protection ColumnTexts) : Except RlsError Catalog :=
  match cat.tables table with
  | none => .error .database
  | some p =>
    if p.owner = cat.currentUser then
      .ok { cat with tables := Function.update cat.tables table (some (f p)) }
    else .error .database

/-- The database reads an identifier without quotes in lower case. -/
def foldIdentifier (identifier : String) : String :=
  String.ofList (identifier.toList.map Char.toLower)

/-- The role that an identifier of a statement names. It is no key word. -/
def Catalog.roleOf (cat : Catalog) (identifier : String) : Except RlsError String := do
  raiseIf (reserved (foldIdentifier identifier) = true ∨
    (cat.findRole (foldIdentifier identifier)).isNone = true) .database
  return foldIdentifier identifier

def enableForceRls (cat : Catalog) (table : String) : Except RlsError Catalog := do
  let table ← validateSqlIdentifier printable alpha alnum table "table name"
  let cat ← cat.alterTable table (fun p => { p with enabled := true })
  cat.alterTable table (fun p => { p with forced := true })

def dropExistingPolicy (cat : Catalog) (table : String) : Except RlsError Catalog := do
  let table ← validateSqlIdentifier printable alpha alnum table "table name"
  let policy ← validateSqlIdentifier printable alpha alnum policyName "policy name"
  cat.alterTable table
    (fun p => { p with policies := p.policies.filter (fun q => q.name ≠ policy) })

/-- The one policy of every table. -/
def tenantIsolation (table : String) (roles : List String) : Policy ColumnTexts :=
  ⟨policyName, true, roles, isCurrentTenant table, isCurrentTenant table⟩

/-- `_create_tenants_policy` and `_create_tenant_scoped_policy`, which differ in the column. -/
def createPolicy (cat : Catalog) (table : String) : Except RlsError Catalog := do
  let names ← (policyRoles appRole).mapM
    (fun role => validateSqlIdentifier printable alpha alnum role "policy role")
  let roles ← names.mapM (cat.roleOf reserved)
  cat.alterTable table
    (fun p => { p with policies := p.policies ++ [tenantIsolation table roles] })

/-- `GRANT`: the database refuses it to a role that has no privilege on the table at all, and
leaves out, with a warning, what the role may not grant. -/
def Catalog.grant (cat : Catalog) (table role : String) (privileges : List Privilege) :
    Except RlsError Catalog :=
  match cat.tables table with
  | none => .error .database
  | some p =>
    if p.canGrant cat.currentUser privileges = true then
      .ok { cat with
        tables := Function.update cat.tables table
          (some (p.grantBy cat.currentUser role privileges)) }
    else .error .database

def grantCrud (cat : Catalog) (table : String) : Except RlsError Catalog := do
  let table ← validateSqlIdentifier printable alpha alnum table "table name"
  let name ← validateSqlIdentifier printable alpha alnum appRole "APP_ROLE"
  let role ← cat.roleOf reserved name
  cat.grant table role [.select, .insert, .update none, .delete]

def grantApiCredentialAccess (cat : Catalog) : Except RlsError Catalog := do
  let name ← validateSqlIdentifier printable alpha alnum appRole "APP_ROLE"
  let role ← cat.roleOf reserved name
  let cat ← cat.grant apiCredentials role [.select]
  cat.grant apiCredentials role [.update (some "last_used_at")]

def configureTable (cat : Catalog) (table : String) : Except RlsError Catalog := do
  let cat ← enableForceRls printable alpha alnum cat table
  let cat ← dropExistingPolicy printable alpha alnum cat table
  let cat ← createPolicy printable alpha alnum reserved appRole cat table
  grantCrud printable alpha alnum reserved appRole cat table

/-- What `configure_rls` commits, or the error that rolls everything back. -/
def configureRls (cat : Catalog) : Except RlsError Catalog := do
  validateDatabase printable alpha alnum appRole cat
  let cat ← allRlsTables.foldlM (configureTable printable alpha alnum reserved appRole) cat
  requireCredentialsTable cat
  grantApiCredentialAccess printable alpha alnum reserved appRole cat

/-! ### Verification -/

def verificationFailed (text : String) : RlsError :=
  .assertionError ("RLS verification failed: " ++ text)

def verifyTableDefinition (cat : Catalog) (table : String) : Except RlsError Unit :=
  match cat.tables table with
  | none => .error (verificationFailed ("table " ++ quoted printable table ++ " missing."))
  | some p => do
    raiseIf (p.enabled = false)
      (verificationFailed (quoted printable table ++ " does not have RLS enabled."))
    raiseIf (p.forced = false)
      (verificationFailed (quoted printable table ++ " does not have FORCE RLS enabled."))
    raiseIf (∀ q ∈ p.policies, q.name ≠ policyName)
      (verificationFailed (quoted printable table ++ " has no " ++ quoted printable policyName ++
        " policy."))

def verifyPolicyDefinition (cat : Catalog) : Except RlsError Unit :=
  allRlsTables.forM (verifyTableDefinition printable cat)

/-- `sorted` of a set of texts, as it is printed. -/
def sortedTexts (names : List String) : String :=
  "[" ++ ", ".intercalate
    ((names.eraseDups.insertionSort (fun a b => a ≤ b)).map (quoted printable)) ++ "]"

/-- The rows that `pg_policies` has for the policy, by table. -/
def Catalog.policyRows (cat : Catalog) : List (String × Policy ColumnTexts) :=
  (allRlsTables.insertionSort (fun a b => a ≤ b)).flatMap (fun table =>
    (((cat.tables table).elim [] Protection.policies).filter (fun q => q.name = policyName)).map
      (fun q => (table, q)))

def verifyPolicyRow (row : String × Policy ColumnTexts) : Except RlsError Unit :=
  raiseIf (∃ role ∈ policyRoles appRole, role ∉ row.2.roles) (.assertionError
    ("Policy role verification failed for " ++ quoted printable row.1 ++ ": expected " ++
      sortedTexts printable (policyRoles appRole) ++ ", got " ++ sortedTexts printable row.2.roles))

def verifyPolicyRoles (cat : Catalog) : Except RlsError Unit := do
  cat.policyRows.forM (verifyPolicyRow printable appRole)
  let missing := allRlsTables.filter (fun table => !(cat.policyRows.map Prod.fst).contains table)
  raiseIf (missing ≠ []) (.assertionError
    ("Policy role verification failed; missing policy rows for " ++
      ", ".intercalate (missing.insertionSort (fun a b => a ≤ b))))

def credentialsUnreachable : RlsError :=
  .assertionError ("API credential privilege verification failed for " ++
    quoted printable appRole ++ ".")

def verifyApiCredentialPrivileges (cat : Catalog) : Except RlsError Unit :=
  match cat.findRole appRole, cat.tables apiCredentials with
  | some role, some p =>
    raiseIf (p.allows role (· == .select) = false ∨
        p.allows role (fun x => x == .update none || x == .update (some "last_used_at")) = false)
      (credentialsUnreachable printable appRole)
  | _, _ => .error .database

/-- `_verify_fail_closed`: what the connected role sees of the tenants without a tenant. -/
def verifyFailClosed (cat : Catalog) (tenants : List ColumnTexts) : Except RlsError Unit :=
  match cat.findRole cat.currentUser, cat.tables tenantTable with
  | some role, some p => do
    raiseIf (p.allows role (· == .select) = false) .database
    let visible := tenants.filter (fun row => p.admits role Policy.usingExpr (some "") row)
    raiseIf (visible ≠ []) (.assertionError
      ("FAIL-CLOSED verification failed: tenantless connection can see " ++
        toString visible.length ++ " tenant rows."))
  | _, _ => .error .database

def verifyRls (cat : Catalog) (tenants : List ColumnTexts) : Except RlsError Unit := do
  validateDatabase printable alpha alnum appRole cat
  requireCredentialsTable cat
  verifyPolicyDefinition printable cat
  verifyPolicyRoles printable appRole cat
  verifyApiCredentialPrivileges printable appRole cat
  verifyFailClosed cat tenants

end Configuration

end OpsCopilot
