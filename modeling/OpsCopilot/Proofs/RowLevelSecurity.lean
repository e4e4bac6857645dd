import OpsCopilot.Model.RowLevelSecurity

/-!
# Row-level security

What `configure_rls` has done to the system tables once it succeeds, that `verify_rls` accepts it
afterwards, and that the sessions of the application are then confined to their tenants.
-/

namespace OpsCopilot

open Python Fallible RowSecurity Interleaving

section Configuring

variable {printable alpha alnum : Char → Bool} {reserved : String → Bool} {appRole : String}
  {cat cat' : Catalog} {table : String} {p : Protection ColumnTexts}

/-! ### Identifiers -/

def ValidIdentifier (alpha alnum : Char → Bool) (value : String) : Prop :=
  value ≠ "" ∧ ¬(value.toList.filter (· ≠ '_') = [] ∨
      (value.toList.filter (· ≠ '_')).all alnum = false) ∧
    ¬value.toList.head?.any (fun c => alpha c || c = '_') = false

/-- The names of the roles can stand in a statement, and then name roles. -/
def RolesNamed (alpha alnum : Char → Bool) (reserved : String → Bool) (appRole : String)
    (cat : Catalog) : Prop :=
  ∀ name ∈ policyRoles appRole, ValidIdentifier alpha alnum name ∧
    ¬(reserved (foldIdentifier name) = true ∨
      (cat.findRole (foldIdentifier name)).isNone = true)

lemma validateSqlIdentifier_ok {value name v : String} :
    validateSqlIdentifier printable alpha alnum value name = .ok v ↔
      v = value ∧ ValidIdentifier alpha alnum value := by
  unfold validateSqlIdentifier
  constructor
  · intro h
    obtain ⟨_, hempty, h⟩ := bind_ok.mp h
    obtain ⟨_, hletters, h⟩ := bind_ok.mp h
    obtain ⟨_, hfirst, h⟩ := bind_ok.mp h
    exact ⟨(pure_ok.mp h).symm, raiseIf_ok.mp hempty, raiseIf_ok.mp hletters,
      raiseIf_ok.mp hfirst⟩
  · rintro ⟨rfl, hempty, hletters, hfirst⟩
    exact bind_ok.mpr ⟨(), raiseIf_ok.mpr hempty, bind_ok.mpr ⟨(), raiseIf_ok.mpr hletters,
      bind_ok.mpr ⟨(), raiseIf_ok.mpr hfirst, rfl⟩⟩⟩

lemma roleOf_ok {identifier role : String} :
    cat.roleOf reserved identifier = .ok role ↔ role = foldIdentifier identifier ∧
      ¬(reserved (foldIdentifier identifier) = true ∨
        (cat.findRole (foldIdentifier identifier)).isNone = true) := by
  unfold Catalog.roleOf
  constructor
  · intro h
    obtain ⟨_, hnamed, h⟩ := bind_ok.mp h
    exact ⟨(pure_ok.mp h).symm, raiseIf_ok.mp hnamed⟩
  · rintro ⟨rfl, hnamed⟩
    exact bind_ok.mpr ⟨(), raiseIf_ok.mpr hnamed, rfl⟩

lemma mem_policyRoles {name : String} :
    name ∈ policyRoles appRole ↔ name = appRole ∨ name = "rls_admin" := by
  rw [policyRoles, List.mem_eraseDups]
  simp

/-! ### One table -/

/-- The table with another protection. -/
def Catalog.put (cat : Catalog) (table : String) (p : Protection ColumnTexts) : Catalog :=
  { cat with tables := Function.update cat.tables table (some p) }

lemma alterTable_ok {f : Protection ColumnTexts → Protection ColumnTexts} :
    cat.alterTable table f = .ok cat' ↔ ∃ p, cat.tables table = some p ∧
      p.owner = cat.currentUser ∧ cat' = cat.put table (f p) := by
  unfold Catalog.alterTable
  cases cat.tables table with
  | none => simp
  | some p =>
    dsimp only
    split_ifs with howner
    · rw [Except.ok.injEq]
      exact ⟨fun h => ⟨p, rfl, howner, h.symm⟩, by rintro ⟨q, hq, -, rfl⟩; cases hq; rfl⟩
    · exact iff_of_false (fun h => by cases h)
        (by rintro ⟨q, hq, hq', -⟩; cases hq; exact howner hq')

lemma grant_ok {role : String} {privileges : List Privilege} :
    cat.grant table role privileges = .ok cat' ↔ ∃ p, cat.tables table = some p ∧
      p.canGrant cat.currentUser privileges = true ∧
      cat' = cat.put table (p.grantBy cat.currentUser role privileges) := by
  unfold Catalog.grant
  cases cat.tables table with
  | none => simp
  | some p =>
    dsimp only
    split_ifs with hcan
    · rw [Except.ok.injEq]
      exact ⟨fun h => ⟨p, rfl, hcan, h.symm⟩, by rintro ⟨q, hq, -, rfl⟩; cases hq; rfl⟩
    · exact iff_of_false (fun h => by cases h)
        (by rintro ⟨q, hq, hq', -⟩; cases hq; exact hcan hq')

/-- The table after `_configure_table`. -/
def isolated (appRole table : String) (p : Protection ColumnTexts) : Protection ColumnTexts :=
  Protection.grantTo
    { p with
      enabled := true
      forced := true
      policies := p.policies.filter (fun q => q.name ≠ policyName) ++
        [tenantIsolation table ((policyRoles appRole).map foldIdentifier)] }
    (foldIdentifier appRole) [.select, .insert, .update none, .delete]

/-- What `_configure_table` needs. -/
structure Configurable (alpha alnum : Char → Bool) (reserved : String → Bool) (appRole : String)
    (cat : Catalog) (table : String) : Prop where
  valid : ValidIdentifier alpha alnum table
  policy : ValidIdentifier alpha alnum policyName
  roles : RolesNamed alpha alnum reserved appRole cat
  owned : ∃ p, cat.tables table = some p ∧ p.owner = cat.currentUser

lemma put_put {q : Protection ColumnTexts} : (cat.put table p).put table q = cat.put table q := by
  unfold Catalog.put
  rw [Function.update_idem]

lemma put_tables_self : (cat.put table p).tables table = some p := Function.update_self _ _ _

lemma put_tables_of_ne {other : String} (h : other ≠ table) :
    (cat.put table p).tables other = cat.tables other := Function.update_of_ne h _ _

/-- A second statement on the same table. -/
lemma alterTable_put {f : Protection ColumnTexts → Protection ColumnTexts}
    (h : p.owner = cat.currentUser) :
    (cat.put table p).alterTable table f = .ok (cat.put table (f p)) :=
  alterTable_ok.mpr ⟨p, put_tables_self, h, put_put.symm⟩

lemma validAppRole (h : RolesNamed alpha alnum reserved appRole cat) :
    validateSqlIdentifier printable alpha alnum appRole "APP_ROLE" = .ok appRole :=
  validateSqlIdentifier_ok.mpr ⟨rfl, (h appRole (mem_policyRoles.mpr (.inl rfl))).1⟩

lemma roleOf_appRole (h : RolesNamed alpha alnum reserved appRole cat) :
    cat.roleOf reserved appRole = .ok (foldIdentifier appRole) :=
  roleOf_ok.mpr ⟨rfl, (h appRole (mem_policyRoles.mpr (.inl rfl))).2⟩

section Steps

variable (h : Configurable alpha alnum reserved appRole cat table)

include h

lemma validateTable_name {name : String} :
    validateSqlIdentifier printable alpha alnum table name = .ok table :=
  validateSqlIdentifier_ok.mpr ⟨rfl, h.valid⟩

lemma enableForceRls_eq (hp : cat.tables table = some p) :
    enableForceRls printable alpha alnum cat table =
      .ok (cat.put table { p with enabled := true, forced := true }) := by
  obtain ⟨q, hq, howner⟩ := h.owned
  obtain rfl := Option.some.inj (hp.symm.trans hq)
  unfold enableForceRls
  rw [validateTable_name h, ok_bind, alterTable_ok.mpr ⟨p, hp, howner, rfl⟩, ok_bind]
  exact alterTable_put (by exact howner)

lemma dropExistingPolicy_eq (hp : p.owner = cat.currentUser) :
    dropExistingPolicy printable alpha alnum (cat.put table p) table =
      .ok (cat.put table { p with policies := p.policies.filter (fun q => q.name ≠ policyName) }) :=
    by
  unfold dropExistingPolicy
  rw [validateTable_name h, ok_bind, validateSqlIdentifier_ok.mpr ⟨rfl, h.policy⟩, ok_bind]
  exact alterTable_put hp

lemma createPolicy_eq (hp : p.owner = cat.currentUser) :
    createPolicy printable alpha alnum reserved appRole (cat.put table p) table =
      .ok (cat.put table { p with
        policies := p.policies ++
          [tenantIsolation table ((policyRoles appRole).map foldIdentifier)] }) := by
  unfold createPolicy
  have hnames : (policyRoles appRole).mapM
      (fun role => validateSqlIdentifier printable alpha alnum role "policy role") =
        .ok (policyRoles appRole) :=
    (mapM_ok_iff (fun _ _ => validateSqlIdentifier_ok)).mpr
      ⟨(List.map_id' _).symm, fun name hname => (h.roles name hname).1⟩
  have hroles : (policyRoles appRole).mapM ((cat.put table p).roleOf reserved) =
      .ok ((policyRoles appRole).map foldIdentifier) :=
    (mapM_ok_iff (fun _ _ => roleOf_ok)).mpr ⟨rfl, fun name hname => (h.roles name hname).2⟩
  rw [hnames, ok_bind, hroles, ok_bind]
  exact alterTable_put hp

lemma grantCrud_eq (hp : p.owner = cat.currentUser) :
    grantCrud printable alpha alnum reserved appRole (cat.put table p) table =
      .ok (cat.put table (p.grantTo (foldIdentifier appRole)
        [.select, .insert, .update none, .delete])) := by
  unfold grantCrud
  rw [validateTable_name h, ok_bind, validAppRole h.roles, ok_bind,
    show (cat.put table p).roleOf reserved appRole = _ from roleOf_appRole h.roles, ok_bind]
  refine grant_ok.mpr ⟨p, put_tables_self, ?_, ?_⟩
  · exact hp ▸ canGrant_owner
  · rw [put_put, show (cat.put table p).currentUser = p.owner from hp.symm, grantBy_owner]

lemma configureTable_eq (hp : cat.tables table = some p) :
    configureTable printable alpha alnum reserved appRole cat table =
      .ok (cat.put table (isolated appRole table p)) := by
  obtain ⟨q, hq, howner⟩ := h.owned
  obtain rfl := Option.some.inj (hp.symm.trans hq)
  unfold configureTable
  rw [enableForceRls_eq h hp, ok_bind, dropExistingPolicy_eq h (by exact howner), ok_bind,
    createPolicy_eq h (by exact howner), ok_bind]
  exact grantCrud_eq h howner

end Steps

lemma alterTable_keeps {f : Protection ColumnTexts → Protection ColumnTexts}
    (h : cat.alterTable table f = .ok cat') :
    cat'.roles = cat.roles ∧ cat'.currentUser = cat.currentUser := by
  obtain ⟨p, -, -, rfl⟩ := alterTable_ok.mp h
  exact ⟨rfl, rfl⟩

/-- `_configure_table` has what it needs when it succeeds. -/
lemma configurable_of_ok
    (h : configureTable printable alpha alnum reserved appRole cat table = .ok cat') :
    Configurable alpha alnum reserved appRole cat table := by
  obtain ⟨cat₁, henable, h⟩ := bind_ok.mp h
  obtain ⟨cat₂, hdrop, h⟩ := bind_ok.mp h
  obtain ⟨cat₃, hcreate, -⟩ := bind_ok.mp h
  obtain ⟨v, hv, halter⟩ := bind_ok.mp henable
  obtain ⟨rfl, hvalid⟩ := validateSqlIdentifier_ok.mp hv
  obtain ⟨cat₀, hfirst, hsecond⟩ := bind_ok.mp halter
  obtain ⟨w, hw, hpolicy⟩ := bind_ok.mp hdrop
  obtain ⟨x, hx, hdropped⟩ := bind_ok.mp hpolicy
  have hroles : cat₂.roles = cat.roles := by
    rw [(alterTable_keeps hdropped).1, (alterTable_keeps hsecond).1, (alterTable_keeps hfirst).1]
  obtain ⟨names, hnames, hresolve⟩ := bind_ok.mp hcreate
  obtain ⟨roles, hnamed, -⟩ := bind_ok.mp hresolve
  obtain ⟨rfl, hidentifiers⟩ := (mapM_ok_iff (fun _ _ => validateSqlIdentifier_ok)).mp hnames
  have hfound := ((mapM_ok_iff (fun _ _ => roleOf_ok)).mp hnamed).2
  rw [List.map_id'] at hfound
  obtain ⟨p, hp, howner, -⟩ := alterTable_ok.mp hfirst
  refine ⟨hvalid, (validateSqlIdentifier_ok.mp hx).2, fun name hname => ?_, p, hp, howner⟩
  have hsame : cat₂.findRole = cat.findRole := by
    funext role
    rw [Catalog.findRole, Catalog.findRole, hroles]
  exact ⟨hidentifiers name hname, hsame ▸ hfound name hname⟩

/-! ### All tables -/

/-- The system tables after `configure_rls`. -/
def Catalog.configured (appRole : String) (cat : Catalog) (tables : List String) : Catalog :=
  { cat with
    tables := fun t => if t ∈ tables then (cat.tables t).map (isolated appRole t)
      else cat.tables t }

lemma configured_cons {tables : List String} (h : table ∉ tables)
    (hp : cat.tables table = some p) :
    (cat.put table (isolated appRole table p)).configured appRole tables =
      cat.configured appRole (table :: tables) := by
  unfold Catalog.configured
  congr 1
  funext t
  by_cases ht : t = table
  · subst ht
    rw [if_neg h, if_pos List.mem_cons_self, put_tables_self, hp, Option.map_some]
  · rw [put_tables_of_ne ht]
    simp only [List.mem_cons, ht, false_or]

lemma Configurable.put {other : String} (h : other ≠ table) :
    Configurable alpha alnum reserved appRole (cat.put table p) other ↔
      Configurable alpha alnum reserved appRole cat other := by
  constructor
  · rintro ⟨hvalid, hpolicy, hroles, howned⟩
    rw [put_tables_of_ne h] at howned
    exact ⟨hvalid, hpolicy, hroles, howned⟩
  · rintro ⟨hvalid, hpolicy, hroles, howned⟩
    refine ⟨hvalid, hpolicy, hroles, ?_⟩
    rwa [put_tables_of_ne h]

/-- The loop over the tables, by induction on the list of them. -/
lemma configureTables_ok {tables : List String} (hnodup : tables.Nodup) :
    tables.foldlM (configureTable printable alpha alnum reserved appRole) cat = .ok cat' ↔
      (∀ t ∈ tables, Configurable alpha alnum reserved appRole cat t) ∧
        cat' = cat.configured appRole tables := by
  induction tables generalizing cat with
  | nil =>
    have hnil : cat.configured appRole [] = cat := by
      unfold Catalog.configured
      simp
    rw [List.foldlM_nil, pure_ok, hnil]
    exact ⟨fun h => ⟨fun t ht => absurd ht List.not_mem_nil, h.symm⟩, fun h => h.2.symm⟩
  | cons table tables ih =>
    obtain ⟨hnew, hrest⟩ := List.nodup_cons.mp hnodup
    have hput : ∀ p, (∀ t ∈ tables, Configurable alpha alnum reserved appRole
        (cat.put table (isolated appRole table p)) t) ↔
          ∀ t ∈ tables, Configurable alpha alnum reserved appRole cat t :=
      fun p => forall₂_congr (fun t ht => Configurable.put (fun heq => hnew (heq ▸ ht)))
    rw [List.foldlM_cons, List.forall_mem_cons]
    constructor
    · intro h
      obtain ⟨cat₁, hfirst, h⟩ := bind_ok.mp h
      have hcan := configurable_of_ok hfirst
      obtain ⟨p, hp, -⟩ := hcan.owned
      obtain rfl := Except.ok.inj ((configureTable_eq hcan hp).symm.trans hfirst)
      obtain ⟨hall, rfl⟩ := (ih hrest).mp h
      exact ⟨⟨hcan, (hput p).mp hall⟩, configured_cons hnew hp⟩
    · rintro ⟨⟨hcan, hall⟩, rfl⟩
      obtain ⟨p, hp, -⟩ := hcan.owned
      refine bind_ok.mpr ⟨_, configureTable_eq hcan hp, (ih hrest).mpr ⟨(hput p).mpr hall, ?_⟩⟩
      exact (configured_cons hnew hp).symm

/-! ### Configuring again -/

lemma isolated_policies : (isolated appRole table p).policies =
    p.policies.filter (fun q => q.name ≠ policyName) ++
      [tenantIsolation table ((policyRoles appRole).map foldIdentifier)] := rfl

lemma isolated_isolated : isolated appRole table (isolated appRole table p) =
    isolated appRole table p := by
  have hpolicies : (isolated appRole table p).policies.filter (fun q => q.name ≠ policyName) =
      p.policies.filter (fun q => q.name ≠ policyName) := by
    rw [isolated_policies, List.filter_append, List.filter_filter]
    simp [tenantIsolation]
  have hsame : isolated appRole table (isolated appRole table p) =
      (isolated appRole table p).grantTo (foldIdentifier appRole)
        [.select, .insert, .update none, .delete] := by
    rw [isolated, hpolicies]
    rfl
  rw [hsame]
  exact grantTo_of_granted (fun x hx => mem_grantTo.mpr (.inr ⟨rfl, hx⟩))

/-- The table of the keys after `_grant_api_credential_access` of the connected role. -/
def credentialGrants (name appRole : String) (p : Protection ColumnTexts) :
    Protection ColumnTexts :=
  (p.grantBy name (foldIdentifier appRole) [.select]).grantBy name (foldIdentifier appRole)
    [.update (some "last_used_at")]

lemma mem_credentialGrants {name : String} {g : String × Privilege} :
    g ∈ (credentialGrants name appRole p).grants ↔ g ∈ p.grants ∨
      g.1 = foldIdentifier appRole ∧ g.2 ∈ [.select, .update (some "last_used_at")] ∧
        p.mayGrant name g.2 = true := by
  rw [credentialGrants, Protection.grantBy, mem_grantTo, Protection.grantBy, mem_grantTo,
    List.mem_filter, List.mem_filter, List.mem_singleton, List.mem_singleton]
  change (g ∈ p.grants ∨ _) ∨ g.1 = foldIdentifier appRole ∧ _ ∧ p.mayGrant name g.2 = true ↔ _
  simp only [List.mem_cons, List.not_mem_nil, or_false]
  tauto

lemma credentialGrants_idem {name : String} :
    credentialGrants name appRole (credentialGrants name appRole p) =
      credentialGrants name appRole p := by
  have hgranted : ∀ x ∈ [Privilege.select, .update (some "last_used_at")],
      (credentialGrants name appRole p).mayGrant name x = true →
        (foldIdentifier appRole, x) ∈ (credentialGrants name appRole p).grants :=
    fun x hx hmay => mem_credentialGrants.mpr (.inr ⟨rfl, hx, hmay⟩)
  have hselect : (credentialGrants name appRole p).grantBy name (foldIdentifier appRole) [.select] =
      credentialGrants name appRole p := by
    refine grantTo_of_granted (fun x hx => ?_)
    obtain ⟨hx, hmay⟩ := List.mem_filter.mp hx
    obtain rfl := List.mem_singleton.mp hx
    exact hgranted _ (by simp) hmay
  conv_lhs => rw [credentialGrants, hselect]
  refine grantTo_of_granted (fun x hx => ?_)
  obtain ⟨hx, hmay⟩ := List.mem_filter.mp hx
  obtain rfl := List.mem_singleton.mp hx
  exact hgranted _ (by simp) hmay

/-- The connected role is not refused the grants on the table of the keys. -/
def CanGrantKeys (name appRole : String) (p : Protection ColumnTexts) : Prop :=
  p.canGrant name [.select] = true ∧
    (p.grantBy name (foldIdentifier appRole) [.select]).canGrant name
      [.update (some "last_used_at")] = true

lemma CanGrantKeys.again {name : String} (h : CanGrantKeys name appRole p) :
    CanGrantKeys name appRole (credentialGrants name appRole p) :=
  ⟨canGrant_mono h.1 rfl rfl (fun _ hg => mem_credentialGrants.mpr (.inl hg)),
    canGrant_mono h.2 rfl rfl
      (fun _ hg => mem_grantTo.mpr (.inl (mem_grantTo.mpr (.inl hg))))⟩

lemma grantApiCredentialAccess_ok (h : RolesNamed alpha alnum reserved appRole cat) :
    grantApiCredentialAccess printable alpha alnum reserved appRole cat = .ok cat' ↔
      ∃ p, cat.tables apiCredentials = some p ∧ CanGrantKeys cat.currentUser appRole p ∧
        cat' = cat.put apiCredentials (credentialGrants cat.currentUser appRole p) := by
  unfold grantApiCredentialAccess
  rw [validAppRole h, ok_bind, roleOf_appRole h, ok_bind]
  constructor
  · intro hok
    obtain ⟨cat₁, hselect, hupdate⟩ := bind_ok.mp hok
    obtain ⟨p, hp, hcan, rfl⟩ := grant_ok.mp hselect
    obtain ⟨q, hq, hcan', rfl⟩ := grant_ok.mp hupdate
    obtain rfl := Option.some.inj (hq.symm.trans put_tables_self)
    exact ⟨p, hp, ⟨hcan, hcan'⟩, put_put⟩
  · rintro ⟨p, hp, ⟨hcan, hcan'⟩, rfl⟩
    exact bind_ok.mpr ⟨_, grant_ok.mpr ⟨p, hp, hcan, rfl⟩,
      grant_ok.mpr ⟨_, put_tables_self, hcan', put_put.symm⟩⟩

lemma apiCredentials_apart : apiCredentials ∉ allRlsTables := by decide +kernel

lemma allRlsTables_nodup : allRlsTables.Nodup := by decide +kernel

/-- The table of the keys is not one of the loop. -/
lemma configured_apiCredentials :
    (cat.configured appRole allRlsTables).tables apiCredentials = cat.tables apiCredentials := by
  simp only [Catalog.configured, if_neg apiCredentials_apart]

/-- What `configure_rls` leaves of a database whose table of the keys is `p`. -/
def Catalog.secured (appRole : String) (p : Protection ColumnTexts) (cat : Catalog) : Catalog :=
  (cat.configured appRole allRlsTables).put apiCredentials
    (credentialGrants cat.currentUser appRole p)

lemma configureRls_ok :
    configureRls printable alpha alnum reserved appRole cat = .ok cat' ↔
      validateDatabase printable alpha alnum appRole cat = .ok () ∧
        (∀ t ∈ allRlsTables, Configurable alpha alnum reserved appRole cat t) ∧
        ∃ p, cat.tables apiCredentials = some p ∧ CanGrantKeys cat.currentUser appRole p ∧
          cat' = cat.secured appRole p := by
  unfold configureRls
  constructor
  · intro h
    obtain ⟨_, hvalid, h⟩ := bind_ok.mp h
    obtain ⟨cat₁, hloop, h⟩ := bind_ok.mp h
    obtain ⟨_, -, h⟩ := bind_ok.mp h
    obtain ⟨hall, rfl⟩ := (configureTables_ok allRlsTables_nodup).mp hloop
    have hroles : RolesNamed alpha alnum reserved appRole (cat.configured appRole allRlsTables) :=
      (hall tenantTable List.mem_cons_self).roles
    obtain ⟨p, hp, hcan, rfl⟩ := (grantApiCredentialAccess_ok hroles).mp h
    rw [configured_apiCredentials] at hp
    exact ⟨hvalid, hall, p, hp, hcan, rfl⟩
  · rintro ⟨hvalid, hall, p, hp, hcan, rfl⟩
    have hroles : RolesNamed alpha alnum reserved appRole (cat.configured appRole allRlsTables) :=
      (hall tenantTable List.mem_cons_self).roles
    have hfound : (cat.configured appRole allRlsTables).tables apiCredentials = some p := by
      rw [configured_apiCredentials, hp]
    refine bind_ok.mpr ⟨(), hvalid, bind_ok.mpr
      ⟨_, (configureTables_ok allRlsTables_nodup).mpr ⟨hall, rfl⟩, bind_ok.mpr ⟨(), ?_, ?_⟩⟩⟩
    · exact raiseIf_ok.mpr (by rw [hfound]; simp)
    · exact (grantApiCredentialAccess_ok hroles).mpr ⟨p, hfound, hcan, rfl⟩

/-- Validating the database looks at the roles and at which tables there are. -/
lemma validateDatabase_congr (hroles : cat'.roles = cat.roles)
    (huser : cat'.currentUser = cat.currentUser)
    (htables : ∀ t, (cat'.tables t).isNone = (cat.tables t).isNone) :
    validateDatabase printable alpha alnum appRole cat' =
      validateDatabase printable alpha alnum appRole cat := by
  have hfind : cat'.findRole = cat.findRole := by
    funext role
    rw [Catalog.findRole, Catalog.findRole, hroles]
  have hproperties : validateRoleSecurityProperties printable cat' =
      validateRoleSecurityProperties printable cat := by
    funext role
    rw [validateRoleSecurityProperties, validateRoleSecurityProperties, hfind]
  have hrole : validatePolicyRole printable alpha alnum cat' =
      validatePolicyRole printable alpha alnum cat := by
    funext role
    rw [validatePolicyRole, validatePolicyRole, hfind, hproperties]
  have htable : validateTable printable alpha alnum cat' =
      validateTable printable alpha alnum cat := by
    funext t
    rw [validateTable, validateTable, htables]
  rw [validateDatabase, validateDatabase, validateConfigurationRole, validateConfigurationRole,
    validateRoles, validateRoles, validateTables, validateTables, huser, hproperties, hrole, htable]

variable (appRole cat p) in
/-- What `configure_rls` leaves for a table. -/
lemma secured_tables (t : String) : (cat.secured appRole p).tables t =
    if t ∈ allRlsTables then (cat.tables t).map (isolated appRole t)
    else if t = apiCredentials then some (credentialGrants cat.currentUser appRole p)
    else cat.tables t := by
  by_cases ht : t = apiCredentials
  · subst ht
    rw [Catalog.secured, put_tables_self, if_neg apiCredentials_apart, if_pos rfl]
  · rw [Catalog.secured, put_tables_of_ne ht, if_neg ht]
    rfl

variable (appRole) in
/-- Every table is kept, with its owner. -/
lemma secured_some {t : String} {q : Protection ColumnTexts}
    (hcred : cat.tables apiCredentials = some p) (hq : cat.tables t = some q) : ∃ q',
      (cat.secured appRole p).tables t = some q' ∧ q'.owner = q.owner ∧ q.grants ⊆ q'.grants ∧
      q'.policies = if t ∈ allRlsTables then (isolated appRole t q).policies else q.policies := by
  rw [secured_tables, hq]
  split_ifs with ht hkeys
  · exact ⟨_, rfl, rfl, fun g hg => mem_grantTo.mpr (.inl hg), rfl⟩
  · subst hkeys
    obtain rfl := Option.some.inj (hcred.symm.trans hq)
    exact ⟨_, rfl, rfl, fun g hg => mem_credentialGrants.mpr (.inl hg), rfl⟩
  · exact ⟨q, rfl, rfl, fun g hg => hg, rfl⟩

lemma secured_apiCredentials :
    (cat.secured appRole p).tables apiCredentials =
      some (credentialGrants cat.currentUser appRole p) :=
  put_tables_self

lemma secured_isNone {t : String} (hcred : cat.tables apiCredentials = some p) :
    ((cat.secured appRole p).tables t).isNone = (cat.tables t).isNone := by
  rw [secured_tables]
  split_ifs with ht hkeys
  · rw [Option.isNone_map]
  · rw [hkeys, hcred]
    rfl
  · rfl

/-- A second run of `configure_rls` finds everything as it would leave it. -/
lemma configureRls_again
    (h : configureRls printable alpha alnum reserved appRole cat = .ok cat') :
    configureRls printable alpha alnum reserved appRole cat' = .ok cat' := by
  obtain ⟨hvalid, hall, p, hp, hcan, rfl⟩ := configureRls_ok.mp h
  have hsame : validateDatabase printable alpha alnum appRole (cat.secured appRole p) =
      validateDatabase printable alpha alnum appRole cat :=
    validateDatabase_congr rfl rfl (fun t => secured_isNone hp)
  refine configureRls_ok.mpr ⟨hsame.trans hvalid, fun t ht => ?_,
    credentialGrants cat.currentUser appRole p, secured_apiCredentials, hcan.again,
    Catalog.ext rfl rfl (funext fun t => ?_)⟩
  · obtain ⟨hname, hpolicy, hroles, q, hq, hqowner⟩ := hall t ht
    obtain ⟨q', hq', howner', -⟩ := secured_some appRole hp hq
    exact ⟨hname, hpolicy, hroles, q', hq', howner'.trans hqowner⟩
  · have hfirst := secured_tables appRole cat p t
    rw [hfirst, secured_tables, hfirst,
      show (cat.secured appRole p).currentUser = cat.currentUser from rfl, credentialGrants_idem]
    split_ifs with ht hkeys
    · rw [Option.map_map]
      congr 1
      funext q
      exact isolated_isolated.symm
    · rfl
    · rfl

/-! ### Confinement -/

/-- The row is one of the tenant that is set. -/
def ofTenant (table : String) (setting : Option String) (row : ColumnTexts) : Prop :=
  ∃ tenant, setting = some tenant ∧ row.lookup (tenantColumn table) = some tenant

lemma isCurrentTenant_iff {setting : Option String} {row : ColumnTexts} :
    isCurrentTenant table setting row = true ↔ ofTenant table setting row := by
  unfold isCurrentTenant ofTenant
  cases setting with
  | none => simp
  | some tenant => simp

/-- Beside the policy of `configure_rls` no other lets the role into the table. -/
def OnlyIsolation (role : Role) (p : Protection ColumnTexts) : Prop :=
  ∀ q ∈ p.policies, q.permissive = true → q.appliesTo role = true → q.name = policyName

lemma isolated_confines {role : Role} (hsuper : role.superuser = false)
    (hbypass : role.bypassRls = false) (honly : OnlyIsolation role p) :
    (isolated appRole table p).Confines role (ofTenant table) where
  inForce := by simp [Protection.inForce, isolated, Protection.grantTo, hsuper, hbypass]
  policies := by
    intro q hq hpermissive happlies setting row
    rw [isolated_policies, List.mem_append, List.mem_filter, List.mem_singleton] at hq
    rcases hq with ⟨hq, hname⟩ | rfl
    · exact absurd (honly q hq hpermissive happlies) (of_decide_eq_true hname)
    · exact ⟨isCurrentTenant_iff.mp, isCurrentTenant_iff.mp⟩

lemma findRole_name {role : Role} {name : String} (h : cat.findRole name = some role) :
    role.name = name := by
  have hfound := List.find?_some h
  exact of_decide_eq_true hfound

lemma validateRoleSecurityProperties_ok {name : String}
    (h : validateRoleSecurityProperties printable cat name = .ok ()) :
    ∃ role, cat.findRole name = some role ∧ role.name = name ∧ role.superuser = false ∧
      role.bypassRls = false := by
  unfold validateRoleSecurityProperties at h
  cases hrole : cat.findRole name with
  | none =>
    rw [hrole] at h
    cases h
  | some role =>
    rw [hrole] at h
    obtain ⟨_, hsuper, h⟩ := bind_ok.mp h
    obtain ⟨_, hbypass, -⟩ := bind_ok.mp h
    exact ⟨role, rfl, findRole_name hrole, Bool.eq_false_iff.mpr (raiseIf_ok.mp hsuper),
      Bool.eq_false_iff.mpr (raiseIf_ok.mp hbypass)⟩

/-- The connected role and the role of the application are there, and bypass nothing. -/
lemma validateDatabase_ok (h : validateDatabase printable alpha alnum appRole cat = .ok ()) :
    (∃ role, cat.findRole cat.currentUser = some role ∧ role.name = cat.currentUser ∧
      role.superuser = false ∧ role.bypassRls = false) ∧
    ∃ role, cat.findRole appRole = some role ∧ role.name = appRole ∧ role.superuser = false ∧
      role.bypassRls = false := by
  obtain ⟨_, huser, h⟩ := bind_ok.mp h
  obtain ⟨_, hroles, -⟩ := bind_ok.mp h
  obtain ⟨_, -, hconnected⟩ := bind_ok.mp huser
  have happ := forM_ok.mp hroles appRole (mem_policyRoles.mpr (.inl rfl))
  obtain ⟨_, -, happ⟩ := bind_ok.mp happ
  obtain ⟨_, -, happ⟩ := bind_ok.mp happ
  exact ⟨validateRoleSecurityProperties_ok hconnected, validateRoleSecurityProperties_ok happ⟩

/-! ### Verification -/

lemma verifyPolicyDefinition_of
    (h : ∀ t ∈ allRlsTables, ∃ p, cat.tables t = some (isolated appRole t p)) :
    verifyPolicyDefinition printable cat = .ok () := by
  refine forM_ok.mpr (fun t ht => ?_)
  obtain ⟨p, hp⟩ := h t ht
  unfold verifyTableDefinition
  rw [hp]
  refine bind_ok.mpr ⟨(), raiseIf_ok.mpr (by simp [isolated, Protection.grantTo]), bind_ok.mpr ⟨(),
    raiseIf_ok.mpr (by simp [isolated, Protection.grantTo]), raiseIf_ok.mpr (fun hnone => ?_)⟩⟩
  refine hnone (tenantIsolation t ((policyRoles appRole).map foldIdentifier)) ?_ rfl
  rw [isolated_policies]
  exact List.mem_append_right _ (List.mem_singleton_self _)

/-- The rows of `pg_policies` are those that `configure_rls` has made. -/
lemma policyRows_eq (h : ∀ t ∈ allRlsTables, ∃ p, cat.tables t = some (isolated appRole t p)) :
    cat.policyRows = (allRlsTables.insertionSort (fun a b => a ≤ b)).map
      (fun t => (t, tenantIsolation t ((policyRoles appRole).map foldIdentifier))) := by
  unfold Catalog.policyRows
  rw [List.map_eq_flatMap]
  refine List.flatMap_congr (fun t ht => ?_)
  obtain ⟨p, hp⟩ := h t ((List.mem_insertionSort _).mp ht)
  rw [hp, Option.elim_some, isolated_policies, List.filter_append, List.filter_filter]
  simp [tenantIsolation]

lemma foldIdentifier_admin : foldIdentifier "rls_admin" = "rls_admin" := by decide +kernel

lemma roles_folded_iff : (∀ role ∈ policyRoles appRole,
    role ∈ (policyRoles appRole).map foldIdentifier) ↔ foldIdentifier appRole = appRole := by
  constructor
  · intro h
    obtain ⟨name, hname, heq⟩ := List.mem_map.mp (h appRole (mem_policyRoles.mpr (.inl rfl)))
    rcases mem_policyRoles.mp hname with rfl | rfl
    · exact heq
    · rw [← heq, foldIdentifier_admin, foldIdentifier_admin]
  · intro h role hrole
    refine List.mem_map.mpr ⟨role, hrole, ?_⟩
    rcases mem_policyRoles.mp hrole with rfl | rfl
    · exact h
    · exact foldIdentifier_admin

/-- The names of the roles in the policies are compared as they were given. -/
lemma verifyPolicyRoles_iff
    (h : ∀ t ∈ allRlsTables, ∃ p, cat.tables t = some (isolated appRole t p)) :
    verifyPolicyRoles printable appRole cat = .ok () ↔ foldIdentifier appRole = appRole := by
  have hrow : ∀ t, verifyPolicyRow printable appRole
      (t, tenantIsolation t ((policyRoles appRole).map foldIdentifier)) = .ok () ↔
        foldIdentifier appRole = appRole := by
    intro t
    rw [verifyPolicyRow, raiseIf_ok, ← roles_folded_iff]
    push Not
    exact Iff.rfl
  unfold verifyPolicyRoles
  rw [policyRows_eq h]
  constructor
  · intro hok
    obtain ⟨_, hrows, -⟩ := bind_ok.mp hok
    have hmem : tenantTable ∈ allRlsTables.insertionSort (fun a b => a ≤ b) :=
      (List.mem_insertionSort _).mpr List.mem_cons_self
    exact (hrow tenantTable).mp (forM_ok.mp hrows _ (List.mem_map.mpr ⟨_, hmem, rfl⟩))
  · intro hfold
    refine bind_ok.mpr ⟨(), forM_ok.mpr (fun row hrow' => ?_), raiseIf_ok.mpr (not_not.mpr ?_)⟩
    · obtain ⟨t, -, rfl⟩ := List.mem_map.mp hrow'
      exact (hrow t).mpr hfold
    · refine List.filter_eq_nil_iff.mpr (fun t ht => ?_)
      rw [List.map_map]
      simp [List.mem_insertionSort, ht]

/-- What the application needs to look a key up. -/
def keyPrivileges : List (Privilege × (Privilege → Bool)) :=
  [(.select, (· == .select)),
    (.update (some "last_used_at"), fun x => x == .update none || x == .update (some "last_used_at"))]

/-- The connected role may grant the application's role each of its privileges on the keys, unless
the role has it already. -/
def KeysReachable (appRole : String) (cat : Catalog) : Prop :=
  ∀ role p, cat.findRole appRole = some role → cat.tables apiCredentials = some p →
    ∀ x ∈ keyPrivileges, p.mayGrant cat.currentUser x.1 = true ∨ p.allows role x.2 = true

lemma verifyApiCredentialPrivileges_iff {role : Role} (hrole : cat.findRole appRole = some role)
    (hp : cat.tables apiCredentials = some p) :
    verifyApiCredentialPrivileges printable appRole cat = .ok () ↔
      ∀ x ∈ keyPrivileges, p.allows role x.2 = true := by
  unfold verifyApiCredentialPrivileges
  rw [hrole, hp, raiseIf_ok]
  simp [keyPrivileges]

/-- Under its exact name the role of the application has what it had and what was granted. -/
lemma credentialGrants_allows {name : String} {role : Role} {x : Privilege × (Privilege → Bool)}
    (hname : role.name = foldIdentifier appRole) (hx : x ∈ keyPrivileges) :
    (credentialGrants name appRole p).allows role x.2 = true ↔
      p.mayGrant name x.1 = true ∨ p.allows role x.2 = true := by
  have hself : x.2 x.1 = true ∧ x.1 ∈ [Privilege.select, .update (some "last_used_at")] := by
    rcases List.mem_pair.mp hx with rfl | rfl
    · exact ⟨rfl, by simp⟩
    · exact ⟨rfl, by simp⟩
  have honly : ∀ y ∈ [Privilege.select, .update (some "last_used_at")], x.2 y = true → y = x.1 := by
    rcases List.mem_pair.mp hx with rfl | rfl <;> decide
  have hholds : (credentialGrants name appRole p).holds role.name x.2 = true ↔
      p.mayGrant name x.1 = true ∨ p.holds role.name x.2 = true := by
    rw [holds_iff, holds_iff]
    constructor
    · rintro ⟨g, hg, hholder, hneeded⟩
      rcases mem_credentialGrants.mp hg with hg | ⟨-, hprivilege, hmay⟩
      · exact .inr ⟨g, hg, hholder, hneeded⟩
      · exact .inl (honly g.2 hprivilege hneeded ▸ hmay)
    · rintro (hmay | ⟨g, hg, hholder⟩)
      · exact ⟨(role.name, x.1), mem_credentialGrants.mpr (.inr ⟨hname, hself.2, hmay⟩), .inl rfl,
          hself.1⟩
      · exact ⟨g, mem_credentialGrants.mpr (.inl hg), hholder⟩
  rw [Protection.allows, Bool.or_eq_true, hholds, Protection.allows,
    Bool.or_eq_true (role.superuser || p.owner == role.name)]
  exact or_left_comm

/-- Without a tenant the connected role sees no tenant, where no other policy lets it. -/
lemma verifyFailClosed_of {role : Role} {tenants : List ColumnTexts}
    (hrole : cat.findRole cat.currentUser = some role) (hsuper : role.superuser = false)
    (hbypass : role.bypassRls = false)
    (hp : cat.tables tenantTable = some (isolated appRole tenantTable p))
    (howner : p.owner = cat.currentUser) (honly : OnlyIsolation role p)
    (hids : ∀ row ∈ tenants, row.lookup "id" ≠ some "") :
    verifyFailClosed cat tenants = .ok () := by
  have hallows : (isolated appRole tenantTable p).allows role (· == .select) = true := by
    have hname : (isolated appRole tenantTable p).owner = role.name :=
      howner.trans (findRole_name hrole).symm
    rw [Protection.allows, hname]
    simp
  unfold verifyFailClosed
  rw [hrole, hp]
  refine bind_ok.mpr ⟨(), raiseIf_ok.mpr (by simp [hallows]), raiseIf_ok.mpr (not_not.mpr ?_)⟩
  refine List.filter_eq_nil_iff.mpr (fun row hrow hvisible => ?_)
  obtain ⟨tenant, hsetting, hid⟩ :=
    (isolated_confines hsuper hbypass honly).own_of_visible hvisible
  obtain rfl := Option.some.inj hsetting
  exact hids row hrow hid

lemma policy_kept {t : String} {q : Policy ColumnTexts} (hq : q.name ≠ policyName) :
    (q ∈ if t ∈ allRlsTables then (isolated appRole t p).policies else p.policies) ↔
      q ∈ p.policies := by
  split_ifs
  · rw [isolated_policies, List.mem_append, List.mem_filter, List.mem_singleton]
    refine ⟨fun h => h.elim And.left (fun heq => absurd (congrArg Policy.name heq) hq),
      fun h => .inl ⟨h, decide_eq_true hq⟩⟩
  · exact Iff.rfl

/-- What `configure_rls` has done, `verify_rls` accepts exactly when the name of the application's
role is in lower case and the connected role could give it what it lacks on the table of the keys;
doing it again changes nothing. It takes no privilege and no policy of another name from anybody. -/
theorem configuration_verified
    (h : configureRls printable alpha alnum reserved appRole cat = .ok cat') :
    configureRls printable alpha alnum reserved appRole cat' = .ok cat' ∧
      (∀ t p, cat.tables t = some p → ∃ p', cat'.tables t = some p' ∧ p'.owner = p.owner ∧
        p.grants ⊆ p'.grants ∧ ∀ q : Policy ColumnTexts, q.name ≠ policyName →
          (q ∈ p'.policies ↔ q ∈ p.policies)) ∧
      ∀ admin tenants, cat.findRole cat.currentUser = some admin →
        (∀ p, cat.tables tenantTable = some p → OnlyIsolation admin p) →
        (∀ row ∈ tenants, row.lookup "id" ≠ some "") →
          (verifyRls printable alpha alnum appRole cat' tenants = .ok () ↔
            foldIdentifier appRole = appRole ∧ KeysReachable appRole cat) := by
  have hagain := configureRls_again h
  obtain ⟨hvalid, hall, p, hp, -, rfl⟩ := configureRls_ok.mp h
  obtain ⟨hvalid', -⟩ := configureRls_ok.mp hagain
  refine ⟨hagain, fun t q hq => ?_, fun admin tenants hadmin honly hids => ?_⟩
  · obtain ⟨q', hq', howner', hgrants, hpolicies⟩ := secured_some appRole hp hq
    exact ⟨q', hq', howner', hgrants, fun r hr => by rw [hpolicies]; exact policy_kept hr⟩
  obtain ⟨⟨user, huser, -, hsuper, hbypass⟩, role, hrole, hname, -⟩ := validateDatabase_ok hvalid
  obtain rfl := Option.some.inj (hadmin.symm.trans huser)
  have hkeys : foldIdentifier appRole = appRole →
      (verifyApiCredentialPrivileges printable appRole (cat.secured appRole p) = .ok () ↔
        KeysReachable appRole cat) := by
    intro hfold
    rw [verifyApiCredentialPrivileges_iff (by exact hrole) secured_apiCredentials]
    constructor
    · intro hallows role' p' hrole' hp' x hx
      obtain rfl := Option.some.inj (hrole'.symm.trans hrole)
      obtain rfl := Option.some.inj (hp'.symm.trans hp)
      exact (credentialGrants_allows (hname.trans hfold.symm) hx).mp (hallows x hx)
    · exact fun hreach x hx =>
        (credentialGrants_allows (hname.trans hfold.symm) hx).mpr (hreach role p hrole hp x hx)
  have hisolated : ∀ t ∈ allRlsTables, ∃ q, cat.tables t = some q ∧ q.owner = cat.currentUser ∧
      (cat.secured appRole p).tables t = some (isolated appRole t q) := by
    intro t ht
    obtain ⟨q, hq, hqowner⟩ := (hall t ht).owned
    refine ⟨q, hq, hqowner, ?_⟩
    rw [secured_tables, if_pos ht, hq]
    rfl
  have htables : ∀ t ∈ allRlsTables, ∃ q,
      (cat.secured appRole p).tables t = some (isolated appRole t q) := by
    intro t ht
    obtain ⟨q, -, -, hq⟩ := hisolated t ht
    exact ⟨q, hq⟩
  constructor
  · intro hverify
    obtain ⟨_, -, hverify⟩ := bind_ok.mp hverify
    obtain ⟨_, -, hverify⟩ := bind_ok.mp hverify
    obtain ⟨_, -, hverify⟩ := bind_ok.mp hverify
    obtain ⟨_, hroles, hverify⟩ := bind_ok.mp hverify
    obtain ⟨_, hprivileges, -⟩ := bind_ok.mp hverify
    have hfold := (verifyPolicyRoles_iff htables).mp hroles
    exact ⟨hfold, (hkeys hfold).mp hprivileges⟩
  · rintro ⟨hfold, hreach⟩
    obtain ⟨q, hq, hqowner, hfound⟩ := hisolated tenantTable List.mem_cons_self
    refine bind_ok.mpr ⟨(), hvalid', bind_ok.mpr ⟨(), raiseIf_ok.mpr ?_, bind_ok.mpr ⟨(),
      verifyPolicyDefinition_of htables, bind_ok.mpr ⟨(), (verifyPolicyRoles_iff htables).mpr hfold,
        bind_ok.mpr ⟨(), (hkeys hfold).mpr hreach, ?_⟩⟩⟩⟩⟩
    · rw [secured_apiCredentials]
      simp
    · exact verifyFailClosed_of hadmin hsuper hbypass hfound hqowner (honly q hq) hids

/-! ### Sessions -/

/-- The rows of a tenant in the tables of the tenants. -/
def belongsTo {κ : Type*} (tenant : String) (r : Record κ ColumnTexts) : Bool :=
  r.table ∈ allRlsTables ∧ r.row.lookup (tenantColumn r.table) = some tenant

/-- What a connection with the setting may see and write. -/
def ownTenant {κ : Type*} (setting : Option String) (r : Record κ ColumnTexts) : Prop :=
  r.table ∈ allRlsTables → ofTenant r.table setting r.row

lemma configured_secures {κ : Type*} {role : Role}
    (h : configureRls printable alpha alnum reserved appRole cat = .ok cat')
    (hrole : cat.findRole appRole = some role)
    (honly : ∀ t ∈ allRlsTables, ∀ p, cat.tables t = some p → OnlyIsolation role p) :
    Secures cat'.tables role (ownTenant : Option String → Record κ ColumnTexts → Prop) := by
  obtain ⟨hvalid, -, p, hp, -, rfl⟩ := configureRls_ok.mp h
  obtain ⟨-, user, huser, -, hsuper, hbypass⟩ := validateDatabase_ok hvalid
  obtain rfl := Option.some.inj (hrole.symm.trans huser)
  refine secures_of_confines (fun t ht q hq => ?_)
  rw [secured_tables, if_pos ht] at hq
  obtain ⟨old, hold, rfl⟩ := Option.map_eq_some_iff.mp hq
  exact isolated_confines hsuper hbypass (honly t ht old hold)

section Sessions

variable {ι κ : Type*} [DecidableEq ι] [DecidableEq κ] {role : Role}
  {records : List (Record κ ColumnTexts)} {first second : List (ι × SessionAction κ ColumnTexts)}
  {c d : Config ι (Database ι κ ColumnTexts) (Connection κ ColumnTexts)}

/-- Once row-level security is configured, whatever statements the pooled connections of the
application run, and however their transactions interleave: a transaction has seen no row but those
of the tenant that it has set, a connection between two transactions has no tenant, and the rows of
a tenant stay as they are until a transaction of this tenant commits. -/
theorem sessions_confined
    (h : configureRls printable alpha alnum reserved appRole cat = .ok cat')
    (hrole : cat.findRole appRole = some role)
    (honly : ∀ t ∈ allRlsTables, ∀ p, cat.tables t = some p → OnlyIsolation role p)
    (hids : (records.map Record.address).Nodup)
    (hfirst : (sessions cat'.tables role).run ⟨⟨records, []⟩, fun _ => .fresh⟩ first = some c)
    (hsecond : (sessions cat'.tables role).run c second = some d) :
    (∀ i tx, (d.proc i).transaction = some tx → ∀ r ∈ tx.seen, r.table ∈ allRlsTables →
      ofTenant r.table (d.proc i).current r.row) ∧
    (∀ i, (d.proc i).transaction = none →
      (d.proc i).current = none ∨ (d.proc i).current = some "") ∧
    ∀ tenant, (sessions cat'.tables role).Along
        (fun e i x => x.isCommit = true → (e.proc i).current ≠ some tenant) c second →
      d.shared.records.filter (belongsTo tenant) = c.shared.records.filter (belongsTo tenant) := by
  have hsecures : Secures cat'.tables role
      (ownTenant : Option String → Record κ ColumnTexts → Prop) := configured_secures h hrole honly
  have hc := sessions_kept hsecures hids hfirst
  have hd := (sessions cat'.tables role).run_invariant'
    (fun _ _ _ _ he hf => SessionsKept.fire hsecures he hf) hc hsecond
  refine ⟨fun i tx htx r hr => (hd.each i).seen tx htx r hr, fun i hidle => ?_,
    fun tenant halong => ?_⟩
  · rw [Connection.current, hidle]
    exact (hd.each i).setting
  · have hforeign : (sessions cat'.tables role).Along (fun e i x => x.isCommit = true →
        ∀ r : Record κ ColumnTexts, ownTenant (e.proc i).current r →
          ¬belongsTo tenant r = true) c second := by
      refine (sessions cat'.tables role).along_mono (fun e i x hok hx r hr hbelongs => ?_) halong
      obtain ⟨htable, htenant⟩ := of_decide_eq_true hbelongs
      obtain ⟨other, hcurrent, hother⟩ := hr htable
      obtain rfl := Option.some.inj (hother.symm.trans htenant)
      exact hok hx hcurrent
    have hsame := records_untouched hsecures hc hforeign hsecond
    simpa only [Bool.decide_eq_true] using hsame

end Sessions

end Configuring

/-! ### A database -/

def appUser : Role := ⟨"app_user", false, false, true⟩

/-- The roles and tables before row-level security. -/
def plainCatalog : Catalog where
  currentUser := "rls_admin"
  roles := [appUser, ⟨"rls_admin", false, false, true⟩]
  tables t := if t ∈ apiCredentials :: allRlsTables then some ⟨"rls_admin", false, false, [], [], []⟩
    else none

def securedCatalog : Except RlsError Catalog :=
  configureRls (fun _ => true) Char.isAlpha Char.isAlphanum (fun _ => false) "app_user"
    plainCatalog

lemma securedCatalog_ok : ∃ cat', securedCatalog = .ok cat' := by
  have hok : securedCatalog.toOption.isSome = true := by decide +kernel
  obtain ⟨cat', hcat⟩ := Option.isSome_iff_exists.mp hok
  exact ⟨cat', eq_ok_of_toOption hcat⟩

lemma plain_only {role : Role} {t : String} {p : Protection ColumnTexts}
    (h : plainCatalog.tables t = some p) : OnlyIsolation role p := by
  simp only [plainCatalog] at h
  split_ifs at h
  obtain rfl := Option.some.inj h
  exact fun q hq => absurd hq List.not_mem_nil

theorem plain_verified : ∃ cat', securedCatalog = .ok cat' ∧
    verifyRls (fun _ => true) Char.isAlpha Char.isAlphanum "app_user" cat' [[("id", "t1")]] =
      .ok () := by
  obtain ⟨cat', hcat⟩ := securedCatalog_ok
  refine ⟨cat', hcat, ((configuration_verified hcat).2.2 ⟨"rls_admin", false, false, true⟩ _ rfl
    (fun _ hp => plain_only hp) (by decide)).mpr ⟨by decide +kernel, ?_⟩⟩
  intro role p _ hp x _
  obtain rfl := Option.some.inj hp
  exact .inl rfl

/-- Two tenants, and what one of them has thrown away. -/
def plainRecords : List (Record ℕ ColumnTexts) :=
  [⟨"tenants", 1, [("id", "t1")]⟩, ⟨"tenants", 2, [("id", "t2")]⟩,
    ⟨"waste_records", 2, [("tenant_id", "t2")]⟩]

/-- The first tenant writes while the second one reads. -/
def twoBegin : List (Bool × SessionAction ℕ ColumnTexts) :=
  [(false, .begin (some "t1")), (true, .begin (some "t2")),
    (false, .execute (.insert ⟨"waste_records", 1, [("tenant_id", "t1")]⟩)),
    (true, .execute (.select "waste_records" (fun _ _ => true)))]

/-- The connection of the first tenant is used again, without a tenant. -/
def oneCommits : List (Bool × SessionAction ℕ ColumnTexts) :=
  [(false, .commit), (true, .execute (.select "waste_records" (fun _ _ => true))),
    (false, .begin none), (false, .execute (.select "tenants" (fun _ _ => true)))]

theorem two_confined : ∃ cat' c d, securedCatalog = .ok cat' ∧
    (sessions cat'.tables appUser).run ⟨⟨plainRecords, []⟩, fun _ => .fresh⟩ twoBegin = some c ∧
    (sessions cat'.tables appUser).run c oneCommits = some d ∧
    (∃ tx, (d.proc true).transaction = some tx ∧ tx.seen.length = 2 ∧
      ∀ r ∈ tx.seen, r.table ∈ allRlsTables → ofTenant r.table (d.proc true).current r.row) ∧
    d.shared.records.length = 4 ∧
    d.shared.records.filter (belongsTo "t2") = c.shared.records.filter (belongsTo "t2") := by
  have hrun : (securedCatalog.toOption.any (fun cat' =>
      ((sessions cat'.tables appUser).run ⟨⟨plainRecords, []⟩, fun _ => .fresh⟩ twoBegin).any
        (fun c => ((sessions cat'.tables appUser).run c oneCommits).any (fun d =>
          decide ((sessions cat'.tables appUser).Along
            (fun e i x => x.isCommit = true → (e.proc i).current ≠ some "t2") c oneCommits) &&
          (d.proc true).transaction.any (fun tx => tx.seen.length = 2) &&
          d.shared.records.length = 4)))) = true := by
    decide +kernel
  obtain ⟨cat', hcat, hrun⟩ := (Option.any_eq_true _ _).mp hrun
  obtain ⟨c, hc, hrun⟩ := (Option.any_eq_true _ _).mp hrun
  obtain ⟨d, hd, hfacts⟩ := (Option.any_eq_true _ _).mp hrun
  rw [Bool.and_eq_true, Bool.and_eq_true] at hfacts
  obtain ⟨⟨halong, htwo⟩, hlength⟩ := hfacts
  obtain ⟨tx, htx, hseen⟩ := (Option.any_eq_true _ _).mp htwo
  have hok : securedCatalog = .ok cat' := eq_ok_of_toOption hcat
  have hrole : plainCatalog.findRole "app_user" = some appUser := by decide +kernel
  obtain ⟨hown, -, huntouched⟩ := sessions_confined hok hrole (fun _ _ _ hp => plain_only hp)
    (by decide) hc hd
  refine ⟨cat', c, d, hok, hc, hd, ⟨tx, htx, of_decide_eq_true hseen, hown true tx htx⟩,
    of_decide_eq_true hlength, huntouched "t2" (of_decide_eq_true halong)⟩

end OpsCopilot
