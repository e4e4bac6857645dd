import Mathlib.Data.List.Nodup
import OpsCopilot.Lib.Interleaving

/-!
# Row-level security

Tables with the row policies of PostgreSQL, and pooled sessions that run any statements on them,
each in transactions that see their own changes and lock what they have changed. What a session
reads and writes is confined to the rows that the policies leave it.
-/

namespace RowSecurity

open Interleaving

variable {κ ρ : Type*}

/-! ### Policies -/

structure Role where
  name : String
  superuser : Bool
  bypassRls : Bool
  canLogin : Bool
deriving DecidableEq

/-- A policy for all commands: what it lets a role see, and what it lets it write, by the setting
of the session. -/
structure Policy (ρ : Type*) where
  name : String
  permissive : Bool
  roles : List String
  usingExpr : Option String → ρ → Bool
  checkExpr : Option String → ρ → Bool

/-- `PUBLIC` is everybody. -/
def Policy.appliesTo (p : Policy ρ) (role : Role) : Bool :=
  p.roles.contains role.name || p.roles.contains "public"

/-- `update` may be granted for one column only. -/
inductive Privilege where
  | select
  | insert
  | update (column : Option String)
  | delete
deriving DecidableEq

def Privilege.isUpdate : Privilege → Bool
  | .update _ => true
  | _ => false

/-- What the catalog says of a table. `options` are the privileges held with the grant option. -/
structure Protection (ρ : Type*) where
  owner : String
  enabled : Bool
  forced : Bool
  policies : List (Policy ρ)
  grants : List (String × Privilege)
  options : List (String × Privilege)

/-- The owner is exempt unless row security is forced. -/
def Protection.inForce (P : Protection ρ) (role : Role) : Bool :=
  !role.superuser && !role.bypassRls && P.enabled && (P.forced || P.owner != role.name)

/-- One permissive policy admits the row, and all restrictive ones do. -/
def Protection.admits (P : Protection ρ) (role : Role)
    (expr : Policy ρ → Option String → ρ → Bool) (setting : Option String) (row : ρ) : Bool :=
  !P.inForce role ||
    (P.policies.any (fun p => p.permissive && p.appliesTo role && expr p setting row) &&
      P.policies.all (fun p => p.permissive || !p.appliesTo role || expr p setting row))

/-- A grant to `PUBLIC` is one to everybody. -/
def Protection.holds (P : Protection ρ) (name : String) (needed : Privilege → Bool) : Bool :=
  P.grants.any (fun g => (g.1 == name || g.1 == "public") && needed g.2)

def Protection.allows (P : Protection ρ) (role : Role) (needed : Privilege → Bool) : Bool :=
  role.superuser || P.owner == role.name || P.holds role.name needed

/-! ### Grants -/

/-- The owner may grant everything, others what they hold with the grant option. -/
def Protection.mayGrant (P : Protection ρ) (name : String) (x : Privilege) : Bool :=
  P.owner == name || P.options.contains (name, x) ||
    x.isUpdate && P.options.contains (name, .update none)

/-- The privileges that let a role get by with a warning where it may not grant `x`: any on the
table, and for a column any that the column can have. -/
def Privilege.excuses : Privilege → Privilege → Bool
  | .update (some column), held => held == .update (some column) ||
      held == .select || held == .insert || held == .update none
  | _, .update (some _) => false
  | _, _ => true

/-- Whether a `GRANT` of the privileges is not refused. -/
def Protection.canGrant (P : Protection ρ) (name : String) (privileges : List Privilege) : Bool :=
  privileges.any (fun x => P.mayGrant name x || P.holds name x.excuses)

/-- `GRANT`, which adds what is missing. -/
def Protection.grantTo (P : Protection ρ) (role : String) (privileges : List Privilege) :
    Protection ρ :=
  { P with
    grants := P.grants ++
      (privileges.map (fun x => (role, x))).filter (fun g => !P.grants.contains g) }

/-- What a `GRANT` of the connected role adds. -/
def Protection.grantBy (P : Protection ρ) (name role : String) (privileges : List Privilege) :
    Protection ρ :=
  P.grantTo role (privileges.filter (P.mayGrant name))

section Grants

variable {P : Protection ρ} {name role : String} {privileges : List Privilege}

lemma mem_grantTo {g : String × Privilege} :
    g ∈ (P.grantTo role privileges).grants ↔ g ∈ P.grants ∨ g.1 = role ∧ g.2 ∈ privileges := by
  rcases g with ⟨holder, privilege⟩
  simp only [Protection.grantTo, List.mem_append, List.mem_filter, List.mem_map, Bool.not_eq_true',
    List.contains_eq_mem, decide_eq_false_iff_not]
  constructor
  · rintro (h | ⟨⟨x, hx, heq⟩, -⟩)
    · exact .inl h
    · obtain ⟨rfl, rfl⟩ := Prod.mk.inj heq
      exact .inr ⟨rfl, hx⟩
  · rintro (h | ⟨rfl, h⟩)
    · exact .inl h
    · by_cases hold : (holder, privilege) ∈ P.grants
      · exact .inl hold
      · exact .inr ⟨⟨privilege, h, rfl⟩, hold⟩

lemma grantTo_of_granted (h : ∀ x ∈ privileges, (role, x) ∈ P.grants) :
    P.grantTo role privileges = P := by
  have hnone : (privileges.map (fun x => (role, x))).filter
      (fun g => !P.grants.contains g) = [] := by
    refine List.filter_eq_nil_iff.mpr (fun g hg => ?_)
    obtain ⟨x, hx, rfl⟩ := List.mem_map.mp hg
    simp [h x hx]
  unfold Protection.grantTo
  rw [hnone, List.append_nil]

/-- The owner grants everything. -/
lemma grantBy_owner : P.grantBy P.owner role privileges = P.grantTo role privileges := by
  unfold Protection.grantBy
  rw [List.filter_eq_self.mpr (fun x _ => by simp [Protection.mayGrant])]

lemma canGrant_owner {x : Privilege} : P.canGrant P.owner (x :: privileges) = true := by
  simp [Protection.canGrant, Protection.mayGrant]

lemma holds_iff {needed : Privilege → Bool} : P.holds name needed = true ↔
    ∃ g ∈ P.grants, (g.1 = name ∨ g.1 = "public") ∧ needed g.2 = true := by
  simp [Protection.holds, List.any_eq_true]

/-- More grants let a role grant no less. -/
lemma canGrant_mono {Q : Protection ρ} (h : P.canGrant name privileges = true)
    (howner : Q.owner = P.owner) (hoptions : Q.options = P.options) (hgrants : P.grants ⊆ Q.grants) :
    Q.canGrant name privileges = true := by
  obtain ⟨x, hx, hable⟩ := List.any_eq_true.mp h
  refine List.any_eq_true.mpr ⟨x, hx, ?_⟩
  rw [Bool.or_eq_true] at hable ⊢
  rcases hable with hmay | hholds
  · exact .inl (by rwa [Protection.mayGrant, howner, hoptions])
  · obtain ⟨g, hg, hname⟩ := holds_iff.mp hholds
    exact .inr (holds_iff.mpr ⟨g, hgrants hg, hname⟩)

end Grants

/-! ### Confined roles -/

/-- Row security is in force for the role, and no permissive policy gives it more than `own`. -/
structure Protection.Confines (P : Protection ρ) (role : Role) (own : Option String → ρ → Prop) :
    Prop where
  inForce : P.inForce role = true
  policies : ∀ p ∈ P.policies, p.permissive = true → p.appliesTo role = true → ∀ setting row,
    (p.usingExpr setting row = true → own setting row) ∧
      (p.checkExpr setting row = true → own setting row)

section Confines

variable {P : Protection ρ} {role : Role} {own : Option String → ρ → Prop} {setting : Option String}
  {row : ρ}

lemma exists_of_admits {expr : Policy ρ → Option String → ρ → Bool} (h : P.inForce role = true)
    (hadmits : P.admits role expr setting row = true) :
    ∃ p ∈ P.policies, p.permissive = true ∧ p.appliesTo role = true ∧
      expr p setting row = true := by
  rw [Protection.admits, h, Bool.not_true, Bool.false_or, Bool.and_eq_true] at hadmits
  obtain ⟨p, hp, hpolicy⟩ := List.any_eq_true.mp hadmits.1
  simp only [Bool.and_eq_true] at hpolicy
  exact ⟨p, hp, hpolicy.1.1, hpolicy.1.2, hpolicy.2⟩

lemma Protection.Confines.own_of_visible (h : P.Confines role own)
    (hvisible : P.admits role Policy.usingExpr setting row = true) : own setting row := by
  obtain ⟨p, hp, hpermissive, hrole, hexpr⟩ := exists_of_admits h.inForce hvisible
  exact (h.policies p hp hpermissive hrole setting row).1 hexpr

lemma Protection.Confines.own_of_writable (h : P.Confines role own)
    (hwritable : P.admits role Policy.checkExpr setting row = true) : own setting row := by
  obtain ⟨p, hp, hpermissive, hrole, hexpr⟩ := exists_of_admits h.inForce hwritable
  exact (h.policies p hp hpermissive hrole setting row).2 hexpr

end Confines

/-! ### Records and changes -/

/-- A row with its table and its primary key. -/
structure Record (κ ρ : Type*) where
  table : String
  key : κ
  row : ρ

def Record.address (r : Record κ ρ) : String × κ := (r.table, r.key)

inductive Change (κ ρ : Type*) where
  | put (r : Record κ ρ)
  | remove (address : String × κ)

def Change.address : Change κ ρ → String × κ
  | .put r => r.address
  | .remove address => address

section Changes

variable [DecidableEq κ]

def Change.apply (records : List (Record κ ρ)) : Change κ ρ → List (Record κ ρ)
  | .put r =>
    if records.any (fun x => x.address = r.address) then
      records.map (fun x => if x.address = r.address then r else x)
    else records ++ [r]
  | .remove address => records.filter (fun x => x.address ≠ address)

/-- The records as the transaction sees them that has made the changes. -/
def view (records : List (Record κ ρ)) (changes : List (Change κ ρ)) : List (Record κ ρ) :=
  changes.foldl Change.apply records

variable {records : List (Record κ ρ)} {changes : List (Change κ ρ)} {r : Record κ ρ}

lemma mem_apply {c : Change κ ρ} (h : r ∈ c.apply records) : r ∈ records ∨ c = .put r := by
  cases c with
  | put x =>
    simp only [Change.apply] at h
    split_ifs at h
    · obtain ⟨y, hy, heq⟩ := List.mem_map.mp h
      split_ifs at heq
      · exact .inr (congrArg Change.put heq)
      · exact .inl (heq ▸ hy)
    · rcases List.mem_append.mp h with h | h
      · exact .inl h
      · exact .inr (congrArg Change.put (List.mem_singleton.mp h).symm)
  | remove address => exact .inl (List.mem_filter.mp h).1

lemma mem_apply_of_untouched {c : Change κ ρ} (hr : r ∈ records) (hne : c.address ≠ r.address) :
    r ∈ c.apply records := by
  cases c with
  | put x =>
    simp only [Change.apply]
    split_ifs
    · exact List.mem_map.mpr ⟨r, hr, if_neg (Ne.symm hne)⟩
    · exact List.mem_append_left _ hr
  | remove address => exact List.mem_filter.mpr ⟨hr, decide_eq_true (Ne.symm hne)⟩

/-- What a transaction sees was there, or it has put it there. -/
lemma mem_view (h : r ∈ view records changes) : r ∈ records ∨ .put r ∈ changes := by
  induction changes generalizing records with
  | nil => exact .inl h
  | cons c changes ih =>
    rcases ih h with hmem | hmem
    · rcases mem_apply hmem with hmem | rfl
      · exact .inl hmem
      · exact .inr List.mem_cons_self
    · exact .inr (List.mem_cons_of_mem c hmem)

/-- What was there is seen, or it has been changed. -/
lemma mem_view_or_changed (h : r ∈ records) :
    r ∈ view records changes ∨ ∃ c ∈ changes, c.address = r.address := by
  induction changes generalizing records with
  | nil => exact .inl h
  | cons c changes ih =>
    by_cases hc : c.address = r.address
    · exact .inr ⟨c, List.mem_cons_self, hc⟩
    · rcases ih (mem_apply_of_untouched h hc) with hmem | ⟨c', hc', heq⟩
      · exact .inl hmem
      · exact .inr ⟨c', List.mem_cons_of_mem c hc', heq⟩

lemma nodup_apply (h : (records.map Record.address).Nodup) (c : Change κ ρ) :
    ((c.apply records).map Record.address).Nodup := by
  cases c with
  | put x =>
    simp only [Change.apply]
    split_ifs with hany
    · have hsame : (records.map (fun y => if y.address = x.address then x else y)).map
          Record.address = records.map Record.address := by
        rw [List.map_map]
        refine List.map_congr_left (fun y _ => ?_)
        simp only [Function.comp_apply]
        split_ifs with heq
        · exact heq.symm
        · rfl
      exact hsame ▸ h
    · rw [List.map_append, List.nodup_append']
      refine ⟨h, List.nodup_singleton _, List.disjoint_singleton.mpr (fun hmem => hany ?_)⟩
      obtain ⟨y, hy, heq⟩ := List.mem_map.mp hmem
      exact List.any_eq_true.mpr ⟨y, hy, decide_eq_true heq⟩
  | remove address => exact h.sublist (List.filter_sublist.map Record.address)

lemma nodup_view (h : (records.map Record.address).Nodup) :
    ((view records changes).map Record.address).Nodup := by
  induction changes generalizing records with
  | nil => exact h
  | cons c changes ih => exact ih (nodup_apply h c)

/-- All that the changes touch satisfies `own`, before and after. -/
def Owned (own : Record κ ρ → Prop) (records : List (Record κ ρ)) (changes : List (Change κ ρ)) :
    Prop :=
  ∀ c ∈ changes, (∀ r ∈ records, r.address = c.address → own r) ∧ ∀ r, c = .put r → own r

variable {own : Record κ ρ → Prop}

/-- Owned changes leave everything else as it is. -/
lemma Owned.filter_other [DecidablePred own] (h : Owned own records changes) :
    (view records changes).filter (fun r => ¬own r) = records.filter (fun r => ¬own r) := by
  induction changes generalizing records with
  | nil => rfl
  | cons c changes ih =>
    obtain ⟨hbefore, hafter⟩ := h c List.mem_cons_self
    have hrest : Owned own (c.apply records) changes := by
      intro c' hc'
      refine ⟨fun r hr heq => ?_, (h c' (List.mem_cons_of_mem c hc')).2⟩
      rcases mem_apply hr with hr | hput
      · exact (h c' (List.mem_cons_of_mem c hc')).1 r hr heq
      · exact hafter r hput
    refine (ih hrest).trans ?_
    cases c with
    | put x =>
      have hx : own x := hafter x rfl
      simp only [Change.apply]
      split_ifs
      · rw [List.filter_map]
        have hcongr : ∀ r ∈ records, (¬own (if r.address = x.address then x else r)) ↔ ¬own r := by
          intro r hr
          split_ifs with heq
          · exact not_congr (iff_of_true hx (hbefore r hr heq))
          · exact Iff.rfl
        have hfilter : records.filter ((fun r => decide ¬own r) ∘
            fun r => if r.address = x.address then x else r) =
              records.filter (fun r => ¬own r) :=
          List.filter_congr (fun r hr => decide_eq_decide.mpr (hcongr r hr))
        rw [hfilter]
        conv_rhs => rw [← List.map_id (records.filter (fun r => decide ¬own r))]
        refine List.map_congr_left (fun r hr => if_neg (fun heq => ?_))
        obtain ⟨hmem, hnot⟩ := List.mem_filter.mp hr
        exact of_decide_eq_true hnot (hbefore r hmem heq)
      · rw [List.filter_append, List.filter_singleton]
        simp [hx]
    | remove address =>
      rw [Change.apply, List.filter_filter]
      refine List.filter_congr (fun r hr => ?_)
      by_cases heq : r.address = address
      · simp [hbefore r hr heq]
      · simp [heq]

/-- Changes elsewhere do not matter. -/
lemma Owned.of_view {others : List (Change κ ρ)} (h : Owned own records changes)
    (hapart : ∀ c ∈ changes, ∀ c' ∈ others, c'.address ≠ c.address) :
    Owned own (view records others) changes := by
  intro c hc
  refine ⟨fun r hr heq => ?_, (h c hc).2⟩
  rcases mem_view hr with hr | hput
  · exact (h c hc).1 r hr heq
  · exact absurd heq (hapart c hc (.put r) hput)

omit [DecidableEq κ] in
lemma Owned.append {more : List (Change κ ρ)} (h : Owned own records changes)
    (hmore : Owned own records more) : Owned own records (changes ++ more) := by
  intro c hc
  rcases List.mem_append.mp hc with hc | hc
  · exact h c hc
  · exact hmore c hc

/-- A change of what the transaction sees, where it owns that. -/
lemma Owned.of_seen (h : Owned own records changes) {c : Change κ ρ}
    (hseen : ∀ r ∈ view records changes, r.address = c.address → own r)
    (hput : ∀ r, c = .put r → own r) : Owned own records [c] := by
  intro c' hc'
  obtain rfl := List.mem_singleton.mp hc'
  refine ⟨fun r hr heq => ?_, hput⟩
  have hsplit : r ∈ view records changes ∨ ∃ d ∈ changes, d.address = r.address :=
    mem_view_or_changed hr
  rcases hsplit with hmem | ⟨d, hd, heq'⟩
  · exact hseen r hmem heq
  · exact (h d hd).1 r hr heq'.symm

end Changes

/-! ### Sessions -/

inductive Statement (κ ρ : Type*) where
  | select (table : String) (condition : κ → ρ → Bool)
  | insert (r : Record κ ρ)
  | update (table : String) (condition : κ → ρ → Bool) (f : ρ → ρ)
  | delete (table : String) (condition : κ → ρ → Bool)

/-- `seen` is all that the statements of the transaction have read. -/
structure Transaction (κ ρ : Type*) where
  localSetting : Option String
  changes : List (Change κ ρ)
  seen : List (Record κ ρ)
  aborted : Bool

/-- A connection of the pool, with the setting that it has between transactions. -/
structure Connection (κ ρ : Type*) where
  setting : Option String
  transaction : Option (Transaction κ ρ)

def Connection.fresh : Connection κ ρ := ⟨none, none⟩

/-- `current_setting(.., true)`. -/
def Connection.current (c : Connection κ ρ) : Option String :=
  (c.transaction.bind Transaction.localSetting).or c.setting

/-- After a transaction a setting that was only local is the empty text. -/
def Connection.ended (c : Connection κ ρ) : Connection κ ρ :=
  ⟨if (c.transaction.bind Transaction.localSetting).isSome then some (c.setting.getD "")
    else c.setting, none⟩

/-- The committed records, and who has changed what and not ended its transaction. -/
structure Database (ι κ ρ : Type*) where
  records : List (Record κ ρ)
  locks : List (ι × String × κ)

inductive SessionAction (κ ρ : Type*) where
  /-- A transaction, with its `SET LOCAL`. -/
  | begin (localSetting : Option String)
  | execute (statement : Statement κ ρ)
  /-- The database refuses the statement. -/
  | fail
  | commit
  | rollback
  /-- The connection is lost, and replaced by a new one. -/
  | disconnect

def SessionAction.isCommit : SessionAction κ ρ → Bool
  | .commit => true
  | _ => false

section Sessions

variable {ι : Type*} [DecidableEq ι] [DecidableEq κ] (P : String → Option (Protection ρ))
  (role : Role)

/-- The records of a table that a statement works on. -/
def targets (p : Protection ρ) (setting : Option String) (records : List (Record κ ρ))
    (table : String) (condition : κ → ρ → Bool) : List (Record κ ρ) :=
  records.filter (fun r => r.table = table && p.admits role Policy.usingExpr setting r.row &&
    condition r.key r.row)

/-- What a statement changes and reads; `none` when the database refuses it. -/
def Statement.run (setting : Option String) (records : List (Record κ ρ)) :
    Statement κ ρ → Option (List (Change κ ρ) × List (Record κ ρ))
  | .select table condition =>
    (P table).bind (fun p =>
      if p.allows role (· == .select) then
        some ([], targets role p setting records table condition)
      else none)
  | .insert r =>
    (P r.table).bind (fun p =>
      if p.allows role (· == .insert) && p.admits role Policy.checkExpr setting r.row &&
          !records.any (fun x => x.address = r.address) then some ([.put r], []) else none)
  | .update table condition f =>
    (P table).bind (fun p =>
      let old := targets role p setting records table condition
      let new := old.map (fun r => { r with row := f r.row })
      if p.allows role Privilege.isUpdate &&
          new.all (fun r => p.admits role Policy.checkExpr setting r.row) then
        some (new.map .put, old)
      else none)
  | .delete table condition =>
    (P table).bind (fun p =>
      let old := targets role p setting records table condition
      if p.allows role (· == .delete) then some (old.map (fun r => .remove r.address), old)
      else none)

def Database.release (db : Database ι κ ρ) (i : ι) : Database ι κ ρ :=
  { db with locks := db.locks.filter (fun l => l.1 ≠ i) }

/-- One step of a connection. A change waits for those who have changed the same record. -/
def sessionStep (i : ι) : SessionAction κ ρ → Database ι κ ρ → Connection κ ρ →
    Option (Database ι κ ρ × Connection κ ρ)
  | .begin localSetting, db, ⟨setting, none⟩ =>
    some (db, ⟨setting, some ⟨localSetting, [], [], false⟩⟩)
  | .execute statement, db, ⟨setting, some tx⟩ =>
    if tx.aborted then some (db, ⟨setting, some tx⟩)
    else
      match statement.run P role (Connection.current ⟨setting, some tx⟩)
          (view db.records tx.changes) with
      | none => some (db, ⟨setting, some { tx with aborted := true }⟩)
      | some (changes, returned) =>
        if db.locks.any (fun l => l.1 ≠ i ∧ l.2 ∈ changes.map Change.address) then none
        else some ({ db with locks := changes.map (fun c => (i, c.address)) ++ db.locks },
          ⟨setting, some { tx with changes := tx.changes ++ changes,
                                   seen := tx.seen ++ returned }⟩)
  | .fail, db, ⟨setting, some tx⟩ => some (db, ⟨setting, some { tx with aborted := true }⟩)
  | .commit, db, ⟨setting, some tx⟩ =>
    some (Database.release (if tx.aborted then db
        else { db with records := view db.records tx.changes }) i,
      Connection.ended ⟨setting, some tx⟩)
  | .rollback, db, ⟨setting, some tx⟩ => some (db.release i, Connection.ended ⟨setting, some tx⟩)
  | .disconnect, db, _ => some (db.release i, .fresh)
  | _, _, _ => none

/-- Any number of pooled connections of one role. -/
def sessions : Program ι (Database ι κ ρ) (Connection κ ρ) (SessionAction κ ρ) :=
  ⟨sessionStep P role⟩

end Sessions

/-! ### Confinement -/

/-- The policies let the role see and write nothing but what `own` gives to a setting. -/
structure Secures (P : String → Option (Protection ρ)) (role : Role)
    (own : Option String → Record κ ρ → Prop) : Prop where
  visible : ∀ p setting r, P r.table = some p →
    p.admits role Policy.usingExpr setting r.row = true → own setting r
  writable : ∀ p setting r, P r.table = some p →
    p.admits role Policy.checkExpr setting r.row = true → own setting r

/-- Tables that confine the role each, and others where anything goes. -/
lemma secures_of_confines {P : String → Option (Protection ρ)} {role : Role}
    {own : String → Option String → ρ → Prop} {tables : List String}
    (h : ∀ table ∈ tables, ∀ p, P table = some p → p.Confines role (own table)) :
    Secures P role (fun setting (r : Record κ ρ) => r.table ∈ tables →
      own r.table setting r.row) where
  visible p _ r hp hvisible htable := (h r.table htable p hp).own_of_visible hvisible
  writable p _ r hp hwritable htable := (h r.table htable p hp).own_of_writable hwritable

section Confined

variable {ι : Type*} [DecidableEq ι] [DecidableEq κ] {P : String → Option (Protection ρ)}
  {role : Role} {own : Option String → Record κ ρ → Prop} {c d : Config ι (Database ι κ ρ)
  (Connection κ ρ)} {i : ι} {x : SessionAction κ ρ} {setting : Option String}
  {records : List (Record κ ρ)} {changes more : List (Change κ ρ)} {returned : List (Record κ ρ)}
  {statement : Statement κ ρ}

omit [DecidableEq κ] in
lemma own_of_targets (h : Secures P role own) {p : Protection ρ} {table : String}
    (hp : P table = some p) {condition : κ → ρ → Bool} {r : Record κ ρ}
    (hr : r ∈ targets role p setting records table condition) : r ∈ records ∧ own setting r := by
  obtain ⟨hmem, htarget⟩ := List.mem_filter.mp hr
  simp only [Bool.and_eq_true, decide_eq_true_eq] at htarget
  obtain ⟨⟨rfl, hvisible⟩, -⟩ := htarget
  exact ⟨hmem, h.visible p setting r hp hvisible⟩

/-- A statement reads and changes what its setting owns. -/
lemma Statement.run_owned (h : Secures P role own)
    (hids : (records.map Record.address).Nodup) (howned : Owned (own setting) records changes)
    (hrun : statement.run P role setting (view records changes) = some (more, returned)) :
    Owned (own setting) records more ∧ ∀ r ∈ returned, own setting r := by
  have hview : ((view records changes).map Record.address).Nodup := nodup_view hids
  -- A change at the place of a record that the setting owns.
  have hat : ∀ r ∈ view records changes, own setting r → ∀ c : Change κ ρ, c.address = r.address →
      (∀ x, c = .put x → own setting x) → Owned (own setting) records [c] := by
    intro r hr hown c hc hput
    refine howned.of_seen (fun x hx heq => ?_) hput
    rwa [List.inj_on_of_nodup_map hview hx hr (heq.trans hc)]
  cases statement with
  | select table condition =>
    obtain ⟨p, hp, hresult⟩ := Option.bind_eq_some_iff.mp hrun
    split_ifs at hresult
    obtain ⟨rfl, rfl⟩ := Prod.mk.inj (Option.some.inj hresult)
    exact ⟨fun c hc => absurd hc List.not_mem_nil, fun r hr => (own_of_targets h hp hr).2⟩
  | insert x =>
    obtain ⟨p, hp, hresult⟩ := Option.bind_eq_some_iff.mp hrun
    split_ifs at hresult with hcheck
    obtain ⟨rfl, rfl⟩ := Prod.mk.inj (Option.some.inj hresult)
    simp only [Bool.and_eq_true, Bool.not_eq_true', List.any_eq_false, decide_eq_true_eq] at hcheck
    obtain ⟨⟨-, hwritable⟩, hfresh⟩ := hcheck
    refine ⟨howned.of_seen (fun r hr heq => absurd heq (hfresh r hr)) ?_,
      fun r hr => absurd hr List.not_mem_nil⟩
    rintro r heq
    obtain rfl := Change.put.inj heq
    exact h.writable p setting _ hp hwritable
  | update table condition f =>
    obtain ⟨p, hp, hresult⟩ := Option.bind_eq_some_iff.mp hrun
    dsimp only at hresult
    split_ifs at hresult with hcheck
    obtain ⟨rfl, rfl⟩ := Prod.mk.inj (Option.some.inj hresult)
    rw [Bool.and_eq_true, List.all_eq_true] at hcheck
    refine ⟨fun c hc => ?_, fun r hr => (own_of_targets h hp hr).2⟩
    obtain ⟨x, hx, rfl⟩ := List.mem_map.mp hc
    obtain ⟨r, hr, rfl⟩ := List.mem_map.mp hx
    obtain ⟨hmem, hown⟩ := own_of_targets h hp hr
    refine hat r hmem hown _ rfl ?_ _ (List.mem_singleton_self _)
    rintro y heq
    obtain rfl := Change.put.inj heq
    have htable : r.table = table := by
      have htarget := (List.mem_filter.mp hr).2
      simp only [Bool.and_eq_true, decide_eq_true_eq] at htarget
      exact htarget.1.1
    exact h.writable p setting _ (htable.symm ▸ hp) (hcheck.2 _ hx)
  | delete table condition =>
    obtain ⟨p, hp, hresult⟩ := Option.bind_eq_some_iff.mp hrun
    dsimp only at hresult
    split_ifs at hresult
    obtain ⟨rfl, rfl⟩ := Prod.mk.inj (Option.some.inj hresult)
    refine ⟨fun c hc => ?_, fun r hr => (own_of_targets h hp hr).2⟩
    obtain ⟨r, hr, rfl⟩ := List.mem_map.mp hc
    obtain ⟨hmem, hown⟩ := own_of_targets h hp hr
    exact hat r hmem hown _ rfl (fun x heq => by cases heq) _ (List.mem_singleton_self _)

/-- What one step of a connection can do. -/
inductive SessionMove (P : String → Option (Protection ρ)) (role : Role) (i : ι)
    (db : Database ι κ ρ) (con : Connection κ ρ) :
    SessionAction κ ρ → Database ι κ ρ → Connection κ ρ → Prop where
  | begin (localSetting : Option String) :
      SessionMove P role i db con (.begin localSetting) db
        ⟨con.setting, some ⟨localSetting, [], [], false⟩⟩
  | keep (x : SessionAction κ ρ) (tx : Transaction κ ρ) (aborted : Bool) :
      con.transaction = some tx →
      SessionMove P role i db con x db ⟨con.setting, some { tx with aborted := aborted }⟩
  | execute (statement : Statement κ ρ) (tx : Transaction κ ρ) (changes : List (Change κ ρ))
      (returned : List (Record κ ρ)) :
      con.transaction = some tx →
      statement.run P role con.current (view db.records tx.changes) = some (changes, returned) →
      (∀ l ∈ db.locks, l.1 ≠ i → l.2 ∉ changes.map Change.address) →
      SessionMove P role i db con (.execute statement)
        { db with locks := changes.map (fun c => (i, c.address)) ++ db.locks }
        ⟨con.setting, some { tx with changes := tx.changes ++ changes,
                                     seen := tx.seen ++ returned }⟩
  | commit (tx : Transaction κ ρ) :
      con.transaction = some tx →
      SessionMove P role i db con .commit
        (Database.release { db with records := view db.records tx.changes } i) con.ended
  | rollback (x : SessionAction κ ρ) : SessionMove P role i db con x (db.release i) con.ended
  | disconnect : SessionMove P role i db con .disconnect (db.release i) .fresh

lemma sessionStep_move {db db' : Database ι κ ρ} {con con' : Connection κ ρ}
    (h : sessionStep P role i x db con = some (db', con')) :
    SessionMove P role i db con x db' con' := by
  rcases con with ⟨session, transaction⟩
  cases x with
  | begin localSetting =>
    cases transaction with
    | none =>
      obtain ⟨rfl, rfl⟩ := Prod.mk.inj (Option.some.inj h)
      exact .begin localSetting
    | some tx => cases h
  | execute statement =>
    cases transaction with
    | none => cases h
    | some tx =>
      simp only [sessionStep] at h
      split_ifs at h
      · obtain ⟨rfl, rfl⟩ := Prod.mk.inj (Option.some.inj h)
        exact .keep _ tx tx.aborted rfl
      · cases hrun : statement.run P role (Connection.current ⟨session, some tx⟩)
            (view db.records tx.changes) with
        | none =>
          rw [hrun] at h
          obtain ⟨rfl, rfl⟩ := Prod.mk.inj (Option.some.inj h)
          exact .keep _ tx true rfl
        | some result =>
          rcases result with ⟨changes, returned⟩
          rw [hrun] at h
          dsimp only at h
          split_ifs at h with hfree
          obtain ⟨rfl, rfl⟩ := Prod.mk.inj (Option.some.inj h)
          refine .execute statement tx changes returned rfl hrun (fun l hl hne hmem => hfree ?_)
          exact List.any_eq_true.mpr ⟨l, hl, decide_eq_true ⟨hne, hmem⟩⟩
  | fail =>
    cases transaction with
    | none => cases h
    | some tx =>
      obtain ⟨rfl, rfl⟩ := Prod.mk.inj (Option.some.inj h)
      exact .keep _ tx true rfl
  | commit =>
    cases transaction with
    | none => cases h
    | some tx =>
      simp only [sessionStep] at h
      split_ifs at h
      · obtain ⟨rfl, rfl⟩ := Prod.mk.inj (Option.some.inj h)
        exact .rollback _
      · obtain ⟨rfl, rfl⟩ := Prod.mk.inj (Option.some.inj h)
        exact .commit tx rfl
  | rollback =>
    cases transaction with
    | none => cases h
    | some tx =>
      obtain ⟨rfl, rfl⟩ := Prod.mk.inj (Option.some.inj h)
      exact .rollback _
  | disconnect =>
    obtain ⟨rfl, rfl⟩ := Prod.mk.inj (Option.some.inj h)
    exact .disconnect

/-! ### The invariant of every run -/

omit [DecidableEq κ] in
lemma mem_release {db : Database ι κ ρ} {j : ι} {address : String × κ} :
    (j, address) ∈ (db.release i).locks ↔ (j, address) ∈ db.locks ∧ j ≠ i := by
  rw [Database.release, List.mem_filter]
  exact and_congr_right (fun _ => by simp)

/-- What holds of one connection in every state of a run. -/
structure ConnectionKept (own : Option String → Record κ ρ → Prop) (db : Database ι κ ρ) (i : ι)
    (con : Connection κ ρ) : Prop where
  locked : ∀ tx, con.transaction = some tx → ∀ y ∈ tx.changes, (i, y.address) ∈ db.locks
  owned : ∀ tx, con.transaction = some tx → Owned (own con.current) db.records tx.changes
  seen : ∀ tx, con.transaction = some tx → ∀ r ∈ tx.seen, own con.current r
  /-- No setting outlives its transaction. -/
  setting : con.setting = none ∨ con.setting = some ""

/-- What holds in every state of a run. -/
structure SessionsKept (own : Option String → Record κ ρ → Prop)
    (c : Config ι (Database ι κ ρ) (Connection κ ρ)) : Prop where
  ids : (c.shared.records.map Record.address).Nodup
  /-- No two transactions have changed the same record. -/
  apart : ∀ i j address, (i, address) ∈ c.shared.locks → (j, address) ∈ c.shared.locks → i = j
  each : ∀ i, ConnectionKept own c.shared i (c.proc i)

omit [DecidableEq ι] [DecidableEq κ] in
lemma ConnectionKept.idle {db : Database ι κ ρ} {con : Connection κ ρ}
    (htransaction : con.transaction = none)
    (hsetting : con.setting = none ∨ con.setting = some "") : ConnectionKept own db i con where
  locked tx h := by cases htransaction.symm.trans h
  owned tx h := by cases htransaction.symm.trans h
  seen tx h := by cases htransaction.symm.trans h
  setting := hsetting

omit [DecidableEq ι] [DecidableEq κ] in
lemma sessionsKept_start (hids : (records.map Record.address).Nodup) :
    SessionsKept own (⟨⟨records, []⟩, fun _ => .fresh⟩ :
      Config ι (Database ι κ ρ) (Connection κ ρ)) :=
  ⟨hids, fun _ _ _ h => absurd h List.not_mem_nil, fun _ => .idle rfl (.inl rfl)⟩

omit [DecidableEq κ] in
lemma ended_setting {con : Connection κ ρ} (h : con.setting = none ∨ con.setting = some "") :
    con.ended.setting = none ∨ con.ended.setting = some "" := by
  unfold Connection.ended
  dsimp only
  split_ifs
  · rcases h with h | h
    · exact .inr (by rw [h]; rfl)
    · exact .inr (by rw [h]; rfl)
  · exact h

section Step

variable {db db' : Database ι κ ρ} {con con' : Connection κ ρ}

/-- The step keeps the invariant of the connection that takes it. -/
lemma SessionMove.own_kept (h : Secures P role own) (hids : (db.records.map Record.address).Nodup)
    (hmove : SessionMove P role i db con x db' con') (hcon : ConnectionKept own db i con) :
    ConnectionKept own db' i con' := by
  cases hmove with
  | begin localSetting =>
    refine ⟨fun tx htx y hy => ?_, fun tx htx y hy => ?_, fun tx htx r hr => ?_, hcon.setting⟩
    all_goals
      obtain rfl := Option.some.inj htx
      contradiction
  | keep _ tx aborted htx =>
    rcases con with ⟨session, transaction⟩
    obtain rfl : transaction = some tx := htx
    refine ⟨?_, ?_, ?_, hcon.setting⟩
    all_goals
      intro tx' htx'
      cases htx'
    · exact hcon.locked tx rfl
    · exact hcon.owned tx rfl
    · exact hcon.seen tx rfl
  | execute statement tx changes returned htx hrun hfree =>
    rcases con with ⟨session, transaction⟩
    obtain rfl : transaction = some tx := htx
    obtain ⟨hmore, hreturned⟩ := Statement.run_owned h hids (hcon.owned tx rfl) hrun
    refine ⟨fun tx' htx' y hy => ?_, fun tx' htx' => ?_, fun tx' htx' r hr => ?_, hcon.setting⟩
    all_goals obtain rfl := Option.some.inj htx'
    · rcases List.mem_append.mp hy with hy | hy
      · exact List.mem_append_right _ (hcon.locked tx rfl y hy)
      · exact List.mem_append_left _ (List.mem_map.mpr ⟨y, hy, rfl⟩)
    · exact (hcon.owned tx rfl).append hmore
    · rcases List.mem_append.mp hr with hr | hr
      · exact hcon.seen tx rfl r hr
      · exact hreturned r hr
  | commit tx htx => exact .idle rfl (ended_setting hcon.setting)
  | rollback _ => exact .idle rfl (ended_setting hcon.setting)
  | disconnect => exact .idle rfl (.inl rfl)

/-- It keeps the invariant of every other connection. -/
lemma SessionMove.other_kept {j : ι} {other : Connection κ ρ} (hj : j ≠ i)
    (hapart : ∀ i j address, (i, address) ∈ db.locks → (j, address) ∈ db.locks → i = j)
    (hmove : SessionMove P role i db con x db' con') (hcon : ConnectionKept own db i con)
    (hother : ConnectionKept own db j other) : ConnectionKept own db' j other := by
  have hkeep : ∀ tx, other.transaction = some tx → ∀ y ∈ tx.changes,
      (j, y.address) ∈ (db.release i).locks :=
    fun tx htx y hy => mem_release.mpr ⟨hother.locked tx htx y hy, hj⟩
  cases hmove with
  | begin localSetting => exact hother
  | keep _ tx aborted htx => exact hother
  | execute statement tx changes returned htx hrun hfree =>
    exact ⟨fun tx' htx' y hy => List.mem_append_right _ (hother.locked tx' htx' y hy),
      hother.owned, hother.seen, hother.setting⟩
  | commit tx htx =>
    refine ⟨hkeep, fun tx' htx' => ?_, hother.seen, hother.setting⟩
    -- The two have changed different records.
    refine (hother.owned tx' htx').of_view (fun y hy z hz heq => hj ?_)
    exact hapart j i y.address (hother.locked tx' htx' y hy) (heq ▸ hcon.locked tx htx z hz)
  | rollback _ => exact ⟨hkeep, hother.owned, hother.seen, hother.setting⟩
  | disconnect => exact ⟨hkeep, hother.owned, hother.seen, hother.setting⟩

lemma SessionMove.ids (hmove : SessionMove P role i db con x db' con')
    (hids : (db.records.map Record.address).Nodup) : (db'.records.map Record.address).Nodup := by
  cases hmove with
  | commit tx htx => exact nodup_view hids
  | _ => exact hids

lemma SessionMove.apart (hmove : SessionMove P role i db con x db' con')
    (hapart : ∀ i j address, (i, address) ∈ db.locks → (j, address) ∈ db.locks → i = j) :
    ∀ i j address, (i, address) ∈ db'.locks → (j, address) ∈ db'.locks → i = j := by
  have hreleased : ∀ j k address, (j, address) ∈ (db.release i).locks →
      (k, address) ∈ (db.release i).locks → j = k :=
    fun j k address hj hk => hapart j k address (mem_release.mp hj).1 (mem_release.mp hk).1
  cases hmove with
  | begin localSetting => exact hapart
  | keep _ tx aborted htx => exact hapart
  | execute statement tx changes returned htx hrun hfree =>
    -- A lock that is new is `i`'s, and nobody else has one at its place.
    have hnew : ∀ j address, (j, address) ∈ changes.map (fun c => (i, c.address)) →
        j = i ∧ address ∈ changes.map Change.address := by
      intro j address hmem
      obtain ⟨y, hy, heq⟩ := List.mem_map.mp hmem
      obtain ⟨rfl, rfl⟩ := Prod.mk.inj heq
      exact ⟨rfl, List.mem_map.mpr ⟨y, hy, rfl⟩⟩
    have hold : ∀ j address, (j, address) ∈ db.locks → address ∈ changes.map Change.address →
        j = i := by
      intro j address hmem haddress
      by_contra hne
      exact hfree (j, address) hmem hne haddress
    intro j k address hj hk
    rcases List.mem_append.mp hj with hj | hj <;> rcases List.mem_append.mp hk with hk | hk
    · rw [(hnew j address hj).1, (hnew k address hk).1]
    · rw [(hnew j address hj).1, hold k address hk (hnew j address hj).2]
    · rw [(hnew k address hk).1, hold j address hj (hnew k address hk).2]
    · exact hapart j k address hj hk
  | commit tx htx => exact hreleased
  | rollback _ => exact hreleased
  | disconnect => exact hreleased

/-- A step changes no committed record but those that its transaction owns. -/
lemma SessionMove.records_kept (hmove : SessionMove P role i db con x db' con')
    (hcon : ConnectionKept own db i con) {mine : Record κ ρ → Prop} [DecidablePred mine]
    (hforeign : x.isCommit = true → ∀ r, own con.current r → ¬mine r) :
    db'.records.filter mine = db.records.filter mine := by
  cases hmove with
  | commit tx htx =>
    have howned : Owned (fun r => ¬mine r) db.records tx.changes := by
      intro y hy
      obtain ⟨hbefore, hafter⟩ := hcon.owned tx htx y hy
      exact ⟨fun r hr heq => hforeign rfl r (hbefore r hr heq),
        fun r heq => hforeign rfl r (hafter r heq)⟩
    have hsame := howned.filter_other
    simp only [not_not] at hsame
    exact hsame
  | _ => rfl

end Step

lemma SessionsKept.fire (h : Secures P role own) (hkept : SessionsKept own c)
    (hfire : (sessions P role).fire c i x = some d) : SessionsKept own d := by
  have hmove := sessionStep_move ((sessions P role).step_of_fire hfire)
  refine ⟨hmove.ids hkept.ids, hmove.apart hkept.apart, fun j => ?_⟩
  by_cases hj : j = i
  · subst hj
    exact hmove.own_kept h hkept.ids (hkept.each j)
  · rw [(sessions P role).proc_of_fire hfire hj]
    exact hmove.other_kept hj hkept.apart (hkept.each i) (hkept.each j)

variable {s : List (ι × SessionAction κ ρ)}

/-- In every run every transaction has seen nothing but its own records, and no setting outlives
its transaction. -/
theorem sessions_kept (h : Secures P role own) (hids : (records.map Record.address).Nodup)
    (hrun : (sessions P role).run ⟨⟨records, []⟩, fun _ => .fresh⟩ s = some d) :
    SessionsKept own d :=
  (sessions P role).run_invariant' (fun _ _ _ _ hc hd => SessionsKept.fire h hc hd)
    (sessionsKept_start hids) hrun

/-- A run in which no commit owns a record of a kind leaves the records of the kind as they are. -/
theorem records_untouched (h : Secures P role own) (hkept : SessionsKept own c)
    {mine : Record κ ρ → Prop} [DecidablePred mine]
    (hforeign : (sessions P role).Along
      (fun c i x => x.isCommit = true → ∀ r, own (c.proc i).current r → ¬mine r) c s)
    (hrun : (sessions P role).run c s = some d) :
    d.shared.records.filter mine = c.shared.records.filter mine := by
  let Inv : Config ι (Database ι κ ρ) (Connection κ ρ) → Prop := fun e =>
    SessionsKept own e ∧ e.shared.records.filter mine = c.shared.records.filter mine
  have hinit : Inv c := ⟨hkept, rfl⟩
  refine ((sessions P role).run_invariant ?_ hinit hforeign hrun).2
  rintro e i x f ⟨he, hsame⟩ hok hfire
  refine ⟨he.fire h hfire, ?_⟩
  rw [← hsame]
  exact (sessionStep_move ((sessions P role).step_of_fire hfire)).records_kept (he.each i) hok

end Confined

end RowSecurity
