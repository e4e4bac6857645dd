import OpsCopilot.Model.Credentials
import OpsCopilot.Proofs.DecisionLifecycle

/-!
# Who a key authenticates

Over every run of issuing, rotating and authenticating, the table of credentials is the ring of
the keys that were issued: a header is answered with a tenant exactly when it carries a key that
was issued to it and not revoked since.
-/

namespace OpsCopilot

open Python Fallible KeyRing

/-! ### Tokens -/

lemma isSpace_of_safe {c : Char} (h : c.isAlphanum ∨ c = '-' ∨ c = '_') : isSpace c = false := by
  rcases h with h | rfl | rfl
  · delta Char.isAlphanum Char.isAlpha Char.isUpper Char.isLower Char.isDigit at h
    simp only [Bool.or_eq_true, decide_eq_true_eq, UInt32.le_iff_toNat_le] at h
    simp only [isSpace, Bool.or_eq_false_iff, Char.toNat, beq_eq_false_iff_ne]
    simp at h ⊢
    omega
  · decide
  · decide

lemma UrlSafeToken.strip_eq (token : UrlSafeToken) : strip token.text = token.text :=
  strip_of_no_space (fun c hc => isSpace_of_safe (token.safe c hc))

lemma UrlSafeToken.ne_empty (token : UrlSafeToken) : token.text ≠ "" := by
  intro h
  have hlength := token.length_eq
  rw [h] at hlength
  exact absurd hlength (by decide)

lemma bearerToken_eq_some {header token : String} :
    bearerToken header = some token ↔ header = bearer ++ token := by
  unfold bearerToken
  constructor
  · intro h
    split_ifs at h with hprefix
    obtain rfl := Option.some.inj h
    obtain ⟨rest, hrest⟩ := List.isPrefixOf_iff_prefix.mp hprefix
    rw [← String.toList_inj, String.toList_append, String.toList_ofList, ← hrest]
    have hlength : bearer.length = bearer.toList.length := rfl
    rw [hlength, List.drop_left]
  · rintro rfl
    have hlength : bearer.length = bearer.toList.length := rfl
    rw [String.toList_append, if_pos (by simp), hlength, List.drop_left, String.ofList_toList]

section Keys

variable {O : Outside} {pepper : String} {printable : Char → Bool}

/-! ### Rows -/

/-- A row is the row of a key of the ring. -/
structure RowOf (O : Outside) (pepper : String) (c : ApiCredential) (e : Entry String String) :
    Prop where
  tenantId_eq : c.tenantId = e.holder
  keyHash_eq : c.keyHash = O.sha256 (pepper ++ e.key)
  active_eq : c.active = e.live
  unrevoked : e.live = true → c.revokedAt = none
  stripped : strip e.key = e.key
  nonempty : e.key ≠ ""

/-- The table holds the ring, and no hash twice. -/
structure KeysKept (O : Outside) (pepper : String) (st : CredentialStore)
    (entries : List (Entry String String)) : Prop where
  rows : List.Forall₂ (RowOf O pepper) st.credentials entries
  hashes : (st.credentials.map ApiCredential.keyHash).Nodup

/-- The row that `newCredential` makes. -/
def credentialRow (O : Outside) (pepper tenantId : String) (draw : KeyDraw) (now : Timestamp) :
    ApiCredential :=
  ⟨draw.id, tenantId, O.sha256 (pepper ++ draw.rawKey.text),
    String.ofList (draw.rawKey.text.toList.take 8), true, now, none, none⟩

lemma newCredential_eq (tenantId : String) (draw : KeyDraw) (now : Timestamp) :
    newCredential O pepper tenantId draw now =
      .ok (credentialRow O pepper tenantId draw now) := by
  rw [newCredential, hashApiKey, if_neg draw.rawKey.ne_empty]
  rfl

lemma credentialRow_rowOf (tenantId : String) (draw : KeyDraw) (now : Timestamp) :
    RowOf O pepper (credentialRow O pepper tenantId draw now)
      ⟨tenantId, draw.rawKey.text, true⟩ :=
  ⟨rfl, rfl, rfl, fun _ => rfl, draw.rawKey.strip_eq, draw.rawKey.ne_empty⟩

lemma insert_spec {st st' : CredentialStore} {c : ApiCredential} (h : st.insert c = .ok st') :
    (∀ r ∈ st.credentials, r.keyHash ≠ c.keyHash) ∧
      st' = { st with credentials := st.credentials ++ [c] } := by
  unfold CredentialStore.insert at h
  split_ifs at h with hbad
  obtain rfl := Except.ok.inj h
  refine ⟨fun r hr heq => hbad (.inr ⟨r, hr, .inr heq⟩), rfl⟩

section Step

variable {st st' : CredentialStore} {entries : List (Entry String String)}

lemma KeysKept.insert (h : KeysKept O pepper st entries) {c : ApiCredential}
    {e : Entry String String} (hrow : RowOf O pepper c e) (hinsert : st.insert c = .ok st') :
    KeysKept O pepper st' (entries ++ [e]) := by
  obtain ⟨hfresh, rfl⟩ := insert_spec hinsert
  refine ⟨List.rel_append h.rows (.cons hrow .nil), ?_⟩
  rw [List.map_append, List.nodup_append']
  refine ⟨h.hashes, List.nodup_singleton _, List.disjoint_singleton.mpr (fun hmem => ?_)⟩
  obtain ⟨r, hr, heq⟩ := List.mem_map.mp hmem
  exact hfresh r hr heq

lemma KeysKept.inserts {cs : List ApiCredential} {es : List (Entry String String)}
    (h : KeysKept O pepper st entries) (hrows : List.Forall₂ (RowOf O pepper) cs es)
    (hinserts : cs.foldlM CredentialStore.insert st = .ok st') :
    KeysKept O pepper st' (entries ++ es) := by
  induction hrows generalizing st entries with
  | nil =>
    obtain rfl := pure_ok.mp hinserts
    rwa [List.append_nil]
  | cons hrow _ ih =>
    rw [List.foldlM_cons] at hinserts
    obtain ⟨st₁, hinsert, hrest⟩ := bind_ok.mp hinserts
    have hnext := ih (h.insert hrow hinsert) hrest
    rwa [List.append_assoc] at hnext

/-- What changes no tenant, hash or state of a key keeps the table. -/
lemma KeysKept.map (h : KeysKept O pepper st entries) {f : ApiCredential → ApiCredential}
    {g : Entry String String → Entry String String} (hhash : ∀ c, (f c).keyHash = c.keyHash)
    (hrow : ∀ c e, RowOf O pepper c e → RowOf O pepper (f c) (g e)) :
    KeysKept O pepper { st with credentials := st.credentials.map f } (entries.map g) := by
  refine ⟨?_, ?_⟩
  · rw [List.forall₂_map_left_iff, List.forall₂_map_right_iff]
    exact h.rows.imp hrow
  · have hsame : (st.credentials.map f).map ApiCredential.keyHash =
        st.credentials.map ApiCredential.keyHash := by
      rw [List.map_map]
      exact List.map_congr_left (fun c _ => hhash c)
    exact hsame ▸ h.hashes

lemma KeysKept.touch (h : KeysKept O pepper st entries) (id : String) (now : Timestamp) :
    KeysKept O pepper (st.touch id now) entries := by
  have hkept := h.map (f := fun c => if c.id = id then { c with lastUsedAt := some now } else c)
    (g := fun e => e) (fun c => by split_ifs <;> rfl) (fun c e hrow => by
      split_ifs
      · exact ⟨hrow.tenantId_eq, hrow.keyHash_eq, hrow.active_eq, hrow.unrevoked, hrow.stripped,
          hrow.nonempty⟩
      · exact hrow)
  rwa [List.map_id'] at hkept

lemma KeysKept.revoke (h : KeysKept O pepper st entries) (tenantIds : List String)
    (now : Timestamp) :
    KeysKept O pepper (st.revoke tenantIds now) (apply entries (.revoked tenantIds)) := by
  refine h.map (fun c => by split_ifs <;> rfl) (fun c e hrow => ?_)
  by_cases hmem : e.holder ∈ tenantIds
  · rw [if_pos hmem]
    split_ifs with hactive
    · exact ⟨hrow.tenantId_eq, hrow.keyHash_eq, rfl, fun h => absurd h (by simp), hrow.stripped,
        hrow.nonempty⟩
    · have hdead : c.active = false :=
        Bool.eq_false_iff.mpr (fun h => hactive ⟨hrow.tenantId_eq ▸ hmem, h⟩)
      exact ⟨hrow.tenantId_eq, hrow.keyHash_eq, hdead, fun h => absurd h (by simp), hrow.stripped,
        hrow.nonempty⟩
  · rw [if_neg hmem, if_neg (fun h => hmem (hrow.tenantId_eq ▸ h.1))]
    exact hrow

end Step

/-! ### Rotations -/

section Rotation

variable {now : Timestamp} {st st' : CredentialStore}

lemma rotateTenant_spec {r r' : Rotation} {config : String × KeyDraw}
    (h : rotateTenant O pepper printable now st r config = .ok r') :
    ∃ tenant menuItem ingredient, st.tenantNamed config.1 = some tenant ∧
      st.firstMenuItem tenant.id = some menuItem ∧
      st.firstIngredient tenant.id = some ingredient ∧
      r' = ⟨r.tenantIds ++ [tenant.id],
        r.credentials ++ [credentialRow O pepper tenant.id config.2 now],
        r.fixtures.set (.str tenant.id) ⟨config.2.rawKey.text, menuItem.id,
          menuItem.currentPrice, ingredient.id, ingredient.currentPrice⟩⟩ := by
  unfold rotateTenant at h
  split at h
  · cases h
  · rename_i tenant htenant
    split at h
    · rename_i menuItem ingredient hmenuItem hingredient
      rw [newCredential_eq] at h
      exact ⟨tenant, menuItem, ingredient, htenant, hmenuItem, hingredient,
        (pure_ok.mp h).symm⟩
    · cases h

/-- What the loop over the configured tenants has added to a rotation. -/
structure Rotated (O : Outside) (pepper : String) (now : Timestamp)
    (configured : List (String × KeyDraw)) (r r' : Rotation) (ids : List String) : Prop where
  length_eq : ids.length = configured.length
  tenantIds_eq : r'.tenantIds = r.tenantIds ++ ids
  credentials_eq : r'.credentials = r.credentials ++
    (ids.zip configured).map (fun p => credentialRow O pepper p.1 p.2.2 now)
  fixtures : ∀ id f, r'.fixtures.find? (.str id) = some f →
    r.fixtures.find? (.str id) = some f ∨
      ∃ p ∈ ids.zip configured, p.1 = id ∧ p.2.2.rawKey.text = f.apiKey

lemma rotateTenants_spec {configured : List (String × KeyDraw)} {r r' : Rotation}
    (h : configured.foldlM (rotateTenant O pepper printable now st) r = .ok r') :
    ∃ ids, Rotated O pepper now configured r r' ids := by
  induction configured generalizing r with
  | nil =>
    obtain rfl := pure_ok.mp h
    exact ⟨[], rfl, (List.append_nil _).symm, (List.append_nil _).symm, fun _ _ h => .inl h⟩
  | cons config configured ih =>
    rw [List.foldlM_cons] at h
    obtain ⟨r₁, hone, hrest⟩ := bind_ok.mp h
    obtain ⟨tenant, _, _, -, -, -, rfl⟩ := rotateTenant_spec hone
    obtain ⟨ids, hids⟩ := ih hrest
    refine ⟨tenant.id :: ids, ?_, ?_, ?_, fun id f hf => ?_⟩
    · rw [List.length_cons, hids.length_eq, List.length_cons]
    · rw [hids.tenantIds_eq, List.append_assoc]
      rfl
    · rw [hids.credentials_eq, List.append_assoc]
      rfl
    · rcases hids.fixtures id f hf with hset | ⟨p, hp, hid, hkey⟩
      · rw [Mapping.find?_set] at hset
        split_ifs at hset with hsame
        · obtain rfl := Option.some.inj hset
          exact .inr ⟨(tenant.id, config), List.mem_cons_self, hsame.symm, rfl⟩
        · exact .inl hset
      · exact .inr ⟨p, List.mem_cons_of_mem _ hp, hid, hkey⟩

lemma rotationTransaction_spec {configured : List (String × KeyDraw)} {target : RotationTarget}
    {rotation : Rotation}
    (h : rotationTransaction O pepper printable configured now target st = .ok (st', rotation)) :
    Rotated O pepper now configured ⟨[], [], []⟩ rotation rotation.tenantIds ∧
      st.commitRotation rotation now = .ok st' := by
  obtain ⟨-, -, h⟩ := bind_ok.mp h
  obtain ⟨r, hfixtures, h⟩ := bind_ok.mp h
  obtain ⟨-, -, h⟩ := bind_ok.mp h
  obtain ⟨st₁, hcommit, hlast⟩ := bind_ok.mp h
  obtain ⟨rfl, rfl⟩ := Prod.mk.inj (pure_ok.mp hlast)
  obtain ⟨-, -, hfold⟩ := bind_ok.mp hfixtures
  obtain ⟨ids, hids⟩ := rotateTenants_spec hfold
  obtain rfl : r.tenantIds = ids := hids.tenantIds_eq.trans (List.nil_append ids)
  exact ⟨hids, hcommit⟩

/-- The ring after a rotation. -/
lemma ring_rotated (history : List (KeyEvent String String)) (rotation : Rotation)
    (configured : List (String × KeyDraw)) :
    ring (history ++ rotation.events configured) =
      ring (history ++ [.revoked rotation.tenantIds]) ++
        (rotation.tenantIds.zip configured).map (fun p => ⟨p.1, p.2.2.rawKey.text, true⟩) := by
  have hevents : rotation.events configured = .revoked rotation.tenantIds ::
      ((rotation.tenantIds.zip configured).map (fun p => (p.1, p.2.2.rawKey.text))).map
        (fun k => KeyEvent.issued k.1 k.2) := by
    rw [Rotation.events, List.map_map]
    rfl
  rw [ring_append, hevents, List.foldl_cons, foldl_apply_issued, List.map_map, ring_concat]
  rfl

lemma KeysKept.rotate {configured : List (String × KeyDraw)} {target : RotationTarget}
    {rotation : Rotation} {history : List (KeyEvent String String)}
    (hkept : KeysKept O pepper st (ring history))
    (h : rotationTransaction O pepper printable configured now target st = .ok (st', rotation)) :
    KeysKept O pepper st' (ring (history ++ rotation.events configured)) := by
  obtain ⟨hrotated, hcommit⟩ := rotationTransaction_spec h
  rw [ring_rotated, ring_concat]
  refine (hkept.revoke rotation.tenantIds now).inserts ?_ hcommit
  rw [hrotated.credentials_eq, List.nil_append, List.forall₂_map_left_iff,
    List.forall₂_map_right_iff, List.forall₂_same]
  exact fun p _ => credentialRow_rowOf p.1 p.2.2 now

end Rotation

/-! ### Answers -/

section Answers

variable {st : CredentialStore} {entries : List (Entry String String)} {rawKey : String}

lemma mem_left_of_forall₂ {α β : Type} {R : α → β → Prop} {xs : List α} {ys : List β}
    (h : List.Forall₂ R xs ys) {y : β} (hy : y ∈ ys) : ∃ x ∈ xs, R x y := by
  induction h with
  | nil => exact absurd hy List.not_mem_nil
  | @cons x y' xs ys hR _ ih =>
    rcases List.mem_cons.mp hy with rfl | hy
    · exact ⟨x, List.mem_cons_self, hR⟩
    · obtain ⟨x', hx', hR'⟩ := ih hy
      exact ⟨x', List.mem_cons_of_mem x hx', hR'⟩

/-- A key that no two rows share finds the one row. -/
lemma filter_of_nodup {α β : Type} [DecidableEq β] {key : α → β} {rows : List α} {r : α}
    (h : (rows.map key).Nodup) (hr : r ∈ rows) : rows.filter (fun x => key x = key r) = [r] := by
  induction rows with
  | nil => exact absurd hr List.not_mem_nil
  | cons x rows ih =>
    rw [List.map_cons, List.nodup_cons] at h
    rcases List.mem_cons.mp hr with rfl | hr
    · rw [List.filter_cons_of_pos (by simp), List.filter_eq_nil_iff.mpr]
      intro y hy heq
      exact h.1 (List.mem_map.mpr ⟨y, hy, of_decide_eq_true heq⟩)
    · rw [List.filter_cons_of_neg, ih h.2 hr]
      intro heq
      exact h.1 (List.mem_map.mpr ⟨r, hr, (of_decide_eq_true heq).symm⟩)

lemma resolve_eq (now : Timestamp) (hkey : strip rawKey ≠ "") :
    resolveTenantFromKey O pepper rawKey now st =
      match st.credentials.filter (fun c => c.keyHash = O.sha256 (pepper ++ strip rawKey)) with
      | [] => .error (.authenticationError "invalid API key")
      | [credential] =>
        if credential.active = false ∨ credential.revokedAt ≠ none then
          .error (.authenticationError "API key has been revoked")
        else .ok (st.touch credential.id now, credential.tenantId)
      | _ => .error .multipleResultsFound := by
  rw [resolveTenantFromKey, raiseIf, if_neg hkey, hashApiKey, if_neg hkey]
  change (match st.credentials.filter (fun c => c.keyHash = O.sha256 (pepper ++ strip rawKey)) with
    | [] => _
    | [credential] => _
    | _ => _) = _
  split
  · rfl
  · rw [raiseIf]
    split_ifs <;> rfl
  · rfl

/-- The ring has no key twice. -/
lemma KeysKept.keys_nodup (h : KeysKept O pepper st entries) : (entries.map Entry.key).Nodup := by
  have hsame : st.credentials.map ApiCredential.keyHash =
      (entries.map Entry.key).map (fun key => O.sha256 (pepper ++ key)) := by
    rw [List.map_map, ← List.forall₂_eq_eq_eq, List.forall₂_map_left_iff,
      List.forall₂_map_right_iff]
    exact h.rows.imp (fun c e hrow => hrow.keyHash_eq)
  exact List.Nodup.of_map _ (hsame ▸ h.hashes)

/-- A key of the ring is answered by its state. -/
lemma KeysKept.resolve_known (now : Timestamp) (h : KeysKept O pepper st entries)
    {e : Entry String String}
    (he : e ∈ entries) (hkey : strip rawKey = e.key) :
    if e.live then ∃ st', resolveTenantFromKey O pepper rawKey now st = .ok (st', e.holder)
    else resolveTenantFromKey O pepper rawKey now st =
      .error (.authenticationError "API key has been revoked") := by
  obtain ⟨c, hc, hrow⟩ := mem_left_of_forall₂ h.rows he
  have hfilter := filter_of_nodup h.hashes hc
  rw [hrow.keyHash_eq] at hfilter
  rw [resolve_eq now (hkey ▸ hrow.nonempty), hkey, hfilter]
  dsimp only
  rw [hrow.active_eq, hrow.tenantId_eq]
  cases hlive : e.live with
  | true =>
    rw [if_pos rfl, if_neg (by simp [hrow.unrevoked hlive])]
    exact ⟨_, rfl⟩
  | false => rw [if_neg (by simp), if_pos (.inl rfl)]

/-- A key that is not in the ring is none. -/
lemma KeysKept.resolve_unknown (now : Timestamp) (hsha : Function.Injective O.sha256)
    (h : KeysKept O pepper st entries) (hkey : strip rawKey ≠ "")
    (hnone : ∀ e ∈ entries, e.key ≠ strip rawKey) :
    resolveTenantFromKey O pepper rawKey now st =
      .error (.authenticationError "invalid API key") := by
  have hfilter : st.credentials.filter
      (fun c => c.keyHash = O.sha256 (pepper ++ strip rawKey)) = [] := by
    refine List.filter_eq_nil_iff.mpr (fun c hc heq => ?_)
    obtain ⟨e, he, hrow⟩ := mem_left_of_forall₂ h.rows.flip hc
    have hsame := hsha (hrow.keyHash_eq.symm.trans (of_decide_eq_true heq))
    exact hnone e he (String.append_right_inj pepper |>.mp hsame)
  rw [resolve_eq now hkey, hfilter]

end Answers

/-! ### Runs -/

section Runs

variable {s : CredentialState} {now : Timestamp} {authorization : Option String}

/-- The table of a state is the ring of its history. -/
def CredentialState.Kept (O : Outside) (pepper : String) (s : CredentialState) : Prop :=
  KeysKept O pepper s.store (ring s.history)

lemma issueKey_kept {st st' : CredentialStore} {history : List (KeyEvent String String)}
    {tenantId rawKey : String} {draw : KeyDraw} (h : KeysKept O pepper st (ring history))
    (hissue : issueKey O pepper tenantId draw now st = .ok (st', rawKey)) :
    KeysKept O pepper st' (ring (history ++ [.issued tenantId rawKey])) := by
  rw [issueKey, newCredential_eq] at hissue
  obtain ⟨_, hrow, hissue⟩ := bind_ok.mp hissue
  obtain rfl := Except.ok.inj hrow
  obtain ⟨st₁, hinsert, hlast⟩ := bind_ok.mp hissue
  obtain ⟨rfl, rfl⟩ := Prod.mk.inj (pure_ok.mp hlast)
  rw [ring_concat]
  exact h.insert (credentialRow_rowOf tenantId draw now) hinsert

lemma resolve_store {st st' : CredentialStore} {rawKey t : String}
    (h : resolveTenantFromKey O pepper rawKey now st = .ok (st', t)) :
    ∃ id, st' = st.touch id now := by
  obtain ⟨_, -, h⟩ := bind_ok.mp h
  obtain ⟨_, -, h⟩ := bind_ok.mp h
  split at h
  · cases h
  · rename_i c _
    obtain ⟨_, -, hlast⟩ := bind_ok.mp h
    obtain ⟨rfl, -⟩ := Prod.mk.inj (pure_ok.mp hlast)
    exact ⟨c.id, rfl⟩
  · cases h

lemma requireTenant_store {st st' : CredentialStore} {t : String}
    (h : requireTenant O pepper authorization now st = .ok (st', t)) :
    ∃ id, st' = st.touch id now := by
  unfold requireTenant at h
  split at h
  · cases h
  · exact resolve_store (mapError_ok.mp h)

lemma CredentialState.Kept.step (h : s.Kept O pepper) (a : CredentialAction) :
    (a.step O pepper printable s).Kept O pepper := by
  unfold CredentialAction.step
  cases a with
  | issue tenantId draw now =>
    dsimp only
    split
    · exact h
    · rename_i st rawKey hissue
      exact issueKey_kept h hissue
  | ensure tenantId draw now =>
    dsimp only
    split
    · exact h
    · rename_i st rawKey hensure
      unfold ensureApiKey at hensure
      split_ifs at hensure
      · obtain ⟨rfl, rfl⟩ := Prod.mk.inj (Except.ok.inj hensure)
        rw [Option.map_none, Option.toList_none, List.append_nil]
        exact h
      · obtain ⟨⟨st₁, key⟩, hissue, heq⟩ := map_ok.mp hensure
        obtain ⟨rfl, rfl⟩ := Prod.mk.inj heq
        exact issueKey_kept h hissue
  | rotate configured now target =>
    dsimp only
    split
    · exact h
    · rename_i st rotation hrotate
      exact KeysKept.rotate h hrotate
  | request authorization now =>
    dsimp only
    split
    · exact h
    · rename_i st t hrequest
      obtain ⟨id, rfl⟩ := requireTenant_store hrequest
      exact KeysKept.touch h id now

lemma CredentialState.Kept.run (h : s.Kept O pepper) (actions : List CredentialAction) :
    (s.run O pepper printable actions).Kept O pepper := by
  induction actions generalizing s with
  | nil => exact h
  | cons a actions ih => exact ih (h.step a)

lemma kept_start (O : Outside) (pepper : String) (st : CredentialStore) :
    st.start.Kept O pepper :=
  ⟨.nil, List.nodup_nil⟩

/-- How `require_tenant` passes an error on. -/
def CredentialError.refusal : CredentialError → Refusal
  | .authenticationError message => .http 401 message
  | e => .raised e

lemma requireTenant_bearer (token : String) (st : CredentialStore) :
    requireTenant O pepper (some (bearer ++ token)) now st =
      (resolveTenantFromKey O pepper (strip token) now st).mapError CredentialError.refusal := by
  unfold requireTenant
  rw [Option.bind_some, bearerToken_eq_some.mpr rfl]
  rfl

/-- What `require_tenant` answers, by the keys that were issued and revoked. -/
structure AnsweredByRing (O : Outside) (pepper : String) (authorization : Option String)
    (now : Timestamp) (s : CredentialState) : Prop where
  /-- A tenant gets in exactly by a key of its own that is live. -/
  accepted : ∀ t, (∃ st, requireTenant O pepper authorization now s.store = .ok (st, t)) ↔
    ∃ token, authorization = some (bearer ++ token) ∧ Live s.history t (strip token)
  /-- Everybody else gets a response, and the same one whatever else is in the tables. -/
  refused : ∀ r, requireTenant O pepper authorization now s.store = .error r →
    ∃ detail, r = .http 401 detail
  /-- Only who holds a key that was issued once learns that it has been revoked. -/
  revoked : requireTenant O pepper authorization now s.store =
      .error (.http 401 "API key has been revoked") ↔
    ∃ token, authorization = some (bearer ++ token) ∧ Known s.history (strip token) ∧
      ∀ t, ¬Live s.history t (strip token)

/-- The answer to a token, in the three cases that there are. -/
lemma requireTenant_cases (hsha : Function.Injective O.sha256) (h : s.Kept O pepper)
    (token : String) (now : Timestamp) :
    (∃ t, Live s.history t (strip token) ∧ (∀ u, Live s.history u (strip token) → u = t) ∧
      ∃ st, requireTenant O pepper (some (bearer ++ token)) now s.store = .ok (st, t)) ∨
    (Known s.history (strip token) ∧ (∀ t, ¬Live s.history t (strip token)) ∧
      requireTenant O pepper (some (bearer ++ token)) now s.store =
        .error (.http 401 "API key has been revoked")) ∨
    (¬Known s.history (strip token) ∧ ∃ detail ≠ "API key has been revoked",
      requireTenant O pepper (some (bearer ++ token)) now s.store = .error (.http 401 detail)) := by
  rw [requireTenant_bearer]
  have hstrip : strip (strip token) = strip token := strip_strip token
  by_cases hknown : ∃ e ∈ ring s.history, e.key = strip token
  · obtain ⟨e, he, hkey⟩ := hknown
    have hanswer := KeysKept.resolve_known now h he (hstrip.trans hkey.symm)
    have hone : ∀ t, Live s.history t (strip token) → t = e.holder ∧ e.live = true := by
      intro t ht
      have hsame := List.inj_on_of_nodup_map h.keys_nodup (mem_ring_live.mpr ht) he hkey.symm
      exact ⟨congrArg Entry.holder hsame, (congrArg Entry.live hsame).symm⟩
    cases hlive : e.live with
    | true =>
      rw [hlive, if_pos rfl] at hanswer
      obtain ⟨st, hst⟩ := hanswer
      have hmem : (⟨e.holder, strip token, true⟩ : Entry String String) ∈ ring s.history := by
        rw [← hkey, ← hlive]
        exact he
      refine .inl ⟨e.holder, mem_ring_live.mp hmem, fun t ht => (hone t ht).1, st, ?_⟩
      rw [hst]
      rfl
    | false =>
      rw [hlive, if_neg Bool.false_ne_true] at hanswer
      refine .inr (.inl ⟨exists_mem_ring.mp ⟨e, he, hkey⟩, fun t ht => ?_, ?_⟩)
      · exact absurd ((hone t ht).2.symm.trans hlive) (by simp)
      · rw [hanswer]
        rfl
  · have hunknown : ¬Known s.history (strip token) := fun h => hknown (exists_mem_ring.mpr h)
    refine .inr (.inr ⟨hunknown, ?_⟩)
    by_cases hempty : strip token = ""
    · refine ⟨"missing API key", by decide, ?_⟩
      rw [resolveTenantFromKey, raiseIf, if_pos (hstrip.trans hempty)]
      rfl
    · refine ⟨"invalid API key", by decide, ?_⟩
      have hnone : ∀ e ∈ ring s.history, e.key ≠ strip (strip token) := by
        rw [hstrip]
        exact fun e he hkey => hknown ⟨e, he, hkey⟩
      have hkey : strip (strip token) ≠ "" := by rwa [hstrip]
      rw [KeysKept.resolve_unknown now hsha h hkey hnone]
      rfl

lemma CredentialState.Kept.answered (hsha : Function.Injective O.sha256) (hkept : s.Kept O pepper)
    (authorization : Option String) (now : Timestamp) :
    AnsweredByRing O pepper authorization now s := by
  cases htoken : authorization.bind bearerToken with
  | none =>
    have hanswer : requireTenant O pepper authorization now s.store =
        .error (.http 401 "missing or malformed Authorization header") := by
      unfold requireTenant
      rw [htoken]
    have hnone : ∀ token, authorization ≠ some (bearer ++ token) := by
      rintro token rfl
      rw [Option.bind_some, bearerToken_eq_some.mpr rfl] at htoken
      cases htoken
    refine ⟨fun t => ?_, fun r hr => ?_, ?_⟩
    · rw [hanswer]
      exact iff_of_false (by simp) (fun ⟨token, htoken, _⟩ => hnone token htoken)
    · rw [hanswer] at hr
      exact ⟨_, (Except.error.inj hr).symm⟩
    · rw [hanswer]
      exact iff_of_false (by simp) (fun ⟨token, htoken, _⟩ => hnone token htoken)
  | some token =>
    obtain ⟨header, rfl, hheader⟩ := Option.bind_eq_some_iff.mp htoken
    obtain rfl := bearerToken_eq_some.mp hheader
    have hbearer : ∀ token', some (bearer ++ token) = some (bearer ++ token') ↔ token = token' :=
      fun token' => by rw [Option.some.injEq, String.append_right_inj]
    have hlive : ∀ u, (∃ token', some (bearer ++ token) = some (bearer ++ token') ∧
        Live s.history u (strip token')) ↔ Live s.history u (strip token) := by
      intro u
      simp only [hbearer, exists_eq_left']
    have hrevoked : (∃ token', some (bearer ++ token) = some (bearer ++ token') ∧
        Known s.history (strip token') ∧ ∀ t, ¬Live s.history t (strip token')) ↔
          Known s.history (strip token) ∧ ∀ t, ¬Live s.history t (strip token) := by
      simp only [hbearer, exists_eq_left']
    rcases requireTenant_cases hsha hkept token now with
      ⟨t, ht, hone, st, hst⟩ | ⟨hknown, hdead, hst⟩ | ⟨hunknown, detail, hdetail, hst⟩
    · refine ⟨fun u => Iff.trans ?_ (hlive u).symm, fun r hr => ?_, Iff.trans ?_ hrevoked.symm⟩
      · constructor
        · rintro ⟨st', hst'⟩
          obtain ⟨-, rfl⟩ := Prod.mk.inj (Except.ok.inj (hst.symm.trans hst'))
          exact ht
        · intro hu
          exact ⟨st, hone u hu ▸ hst⟩
      · cases hst.symm.trans hr
      · exact iff_of_false (by simp [hst]) (fun h => h.2 t ht)
    · refine ⟨fun u => Iff.trans ?_ (hlive u).symm, fun r hr => ?_, Iff.trans ?_ hrevoked.symm⟩
      · exact iff_of_false (by simp [hst]) (hdead u)
      · exact ⟨_, (Except.error.inj (hst.symm.trans hr)).symm⟩
      · exact iff_of_true hst ⟨hknown, hdead⟩
    · refine ⟨fun u => Iff.trans ?_ (hlive u).symm, fun r hr => ?_, Iff.trans ?_ hrevoked.symm⟩
      · exact iff_of_false (by simp [hst]) (fun hu => hunknown hu.known)
      · exact ⟨_, (Except.error.inj (hst.symm.trans hr)).symm⟩
      · exact iff_of_false (by simp [hst, hdetail]) (fun h => hunknown h.1)

/-- Over every run, the keys say who gets in. -/
theorem keys_authenticate (hsha : Function.Injective O.sha256) (st : CredentialStore)
    (actions : List CredentialAction) (authorization : Option String) (now : Timestamp) :
    AnsweredByRing O pepper authorization now (st.start.run O pepper printable actions) :=
  ((kept_start O pepper st).run actions).answered hsha authorization now

/-! ### What a rotation hands over -/

section Handover

variable {configured : List (String × KeyDraw)} {target : RotationTarget} {rotation : Rotation}

/-- The keys that are live after a rotation are its own, and those of the other tenants. -/
lemma live_rotated {history : List (KeyEvent String String)} {t key : String} :
    Live (history ++ rotation.events configured) t key ↔
      (Live history t key ∧ t ∉ rotation.tenantIds) ∨
        ∃ p ∈ rotation.tenantIds.zip configured, p.1 = t ∧ p.2.2.rawKey.text = key := by
  rw [← mem_ring_live, ring_rotated, List.mem_append, mem_ring_live, live_concat_revoked,
    List.mem_map]
  simp only [Entry.mk.injEq, and_true]

lemma rotate_step {st' : CredentialStore}
    (h : rotationTransaction O pepper printable configured now target s.store =
      .ok (st', rotation)) :
    (CredentialAction.rotate configured now target).step O pepper printable s =
      ⟨st', s.history ++ rotation.events configured⟩ := by
  unfold CredentialAction.step
  dsimp only
  rw [h]

/-- A rotation that commits, in any state that a run leads to: the key of every fixture gets in as
its tenant, no other key gets in as one of these tenants any more, and the keys of the others stay
as they are. That holds of the tables it leaves also where the fixtures cannot be published. -/
theorem rotation_hands_over (hsha : Function.Injective O.sha256) (st : CredentialStore)
    (actions : List CredentialAction) {s s' : CredentialState} {st' : CredentialStore}
    (hs : s = st.start.run O pepper printable actions)
    (hs' : s' = (CredentialAction.rotate configured now target).step O pepper printable s)
    (h : rotationTransaction O pepper printable configured now target s.store =
      .ok (st', rotation)) :
    (rotateKeys O pepper printable configured now target s.store).2 = s'.store ∧
      (∀ id f, rotation.fixtures.find? (.str id) = some f → ∀ later, ∃ st'',
        requireTenant O pepper (some (bearer ++ f.apiKey)) later s'.store = .ok (st'', id)) ∧
      (∀ t ∈ rotation.tenantIds, ∀ token later st'',
        requireTenant O pepper (some (bearer ++ token)) later s'.store = .ok (st'', t) →
          ∃ config ∈ configured, strip token = config.2.rawKey.text) ∧
      ∀ t, t ∉ rotation.tenantIds → ∀ key, Live s'.history t key ↔ Live s.history t key := by
  have hkept : s'.Kept O pepper := by
    rw [hs', hs]
    exact ((kept_start O pepper st).run actions).step _
  have hanswers : ∀ authorization later, AnsweredByRing O pepper authorization later s' :=
    hkept.answered hsha
  rw [rotate_step h] at hs'
  obtain ⟨hrotated, -⟩ := rotationTransaction_spec h
  subst hs'
  refine ⟨by rw [rotateKeys, h], fun id f hf later => ?_, fun t ht token later st'' hst => ?_,
    fun t ht key => ?_⟩
  · rcases hrotated.fixtures id f hf with hnone | ⟨p, hp, rfl, hkey⟩
    · cases hnone
    · refine ((hanswers _ later).accepted p.1).mpr ⟨f.apiKey, rfl, ?_⟩
      rw [← hkey, p.2.2.rawKey.strip_eq]
      exact live_rotated.mpr (.inr ⟨p, hp, rfl, rfl⟩)
  · obtain ⟨token', heq, hlive⟩ := ((hanswers _ later).accepted t).mp ⟨st'', hst⟩
    obtain rfl := (String.append_right_inj bearer).mp (Option.some.inj heq)
    rcases live_rotated.mp hlive with ⟨-, hother⟩ | ⟨p, hp, -, hkey⟩
    · exact absurd ht hother
    · exact ⟨p.2, (List.of_mem_zip hp).2, hkey.symm⟩
  · rw [live_rotated]
    constructor
    · rintro (⟨hlive, -⟩ | ⟨p, hp, rfl, -⟩)
      · exact hlive
      · exact absurd (List.of_mem_zip hp).1 ht
    · exact fun hlive => .inl ⟨hlive, ht⟩

end Handover

end Runs

end Keys

/-! ### A concrete run -/

/-- A token of one letter, over and over. -/
def plainToken (c : Char) (h : c.isAlphanum ∨ c = '-' ∨ c = '_') : UrlSafeToken where
  text := String.ofList (List.replicate 43 c)
  length_eq := by rw [String.length_ofList, List.length_replicate]
  safe d hd := by
    rw [String.toList_ofList] at hd
    rwa [List.eq_of_mem_replicate hd]

def firstKey : KeyDraw := ⟨plainToken 'k' (by decide), "c1"⟩
def secondKey : KeyDraw := ⟨plainToken 'n' (by decide), "c2"⟩

def keyDigests : Outside := Outside.prescribed [
  ("salt" ++ firstKey.rawKey.text, "b5f734251b749bb7c785f8ee297d31ca19986470dd6951ac57776c52cef1547a"),
  ("salt" ++ secondKey.rawKey.text, "5649235ec9ffdbffee850ef57237ec677f3cb0cc4486c1d44c720ef3722e7b07")]

lemma keyDigests_injective : Function.Injective keyDigests.sha256 := by
  apply Outside.prescribed_injective
  · decide
  · decide

def bistroStore : CredentialStore where
  tenants := [⟨"t", "Bistro"⟩]
  menuItems := bistro.tables.menuItems
  ingredients := bistro.tables.ingredients
  credentials := []

/-- A key is issued and used. -/
def firstUse : List CredentialAction :=
  [.issue "t" firstKey 1, .request (some (bearer ++ firstKey.rawKey.text)) 2]

def toFile : RotationTarget := ⟨some "tenant_fixtures.json", none, "pending.tmp", none, none⟩

theorem bistro_authenticated :
    Live (bistroStore.start.run keyDigests "salt" (fun _ => true) firstUse).history "t"
        (strip firstKey.rawKey.text) ∧
      ∃ st, requireTenant keyDigests "salt" (some (bearer ++ firstKey.rawKey.text)) 3
        (bistroStore.start.run keyDigests "salt" (fun _ => true) firstUse).store =
          .ok (st, "t") := by
  have hrun : (requireTenant keyDigests "salt" (some (bearer ++ firstKey.rawKey.text)) 3
      (bistroStore.start.run keyDigests "salt" (fun _ => true) firstUse).store).toOption.any
      (fun r => r.2 = "t") = true := by decide +kernel
  obtain ⟨⟨st, t⟩, hst, ht⟩ := (Option.any_eq_true _ _).mp hrun
  obtain rfl : t = "t" := of_decide_eq_true ht
  have hok := eq_ok_of_toOption hst
  have hanswer : AnsweredByRing keyDigests "salt" (some (bearer ++ firstKey.rawKey.text)) 3
      (bistroStore.start.run keyDigests "salt" (fun _ => true) firstUse) :=
    keys_authenticate keyDigests_injective bistroStore firstUse _ 3
  obtain ⟨token, heq, hlive⟩ := (hanswer.accepted "t").mp ⟨st, hok⟩
  obtain rfl := (String.append_right_inj bearer).mp (Option.some.inj heq)
  exact ⟨hlive, st, hok⟩

/-- After the rotation the published key gets in, and the first one no longer does. -/
theorem bistro_rotated : ∃ st' rotation f,
    rotationTransaction keyDigests "salt" (fun _ => true) [("Bistro", secondKey)] 4 toFile
        (bistroStore.start.run keyDigests "salt" (fun _ => true) firstUse).store =
      .ok (st', rotation) ∧
      rotation.fixtures.find? (.str "t") = some f ∧ f.apiKey = secondKey.rawKey.text ∧
      (∃ st'', requireTenant keyDigests "salt" (some (bearer ++ f.apiKey)) 5 st' =
        .ok (st'', "t")) ∧
      ∀ st'', requireTenant keyDigests "salt" (some (bearer ++ firstKey.rawKey.text)) 5 st' ≠
        .ok (st'', "t") := by
  have hrun : (rotationTransaction keyDigests "salt" (fun _ => true) [("Bistro", secondKey)] 4
      toFile (bistroStore.start.run keyDigests "salt" (fun _ => true) firstUse).store).toOption.any
      (fun r => r.2.tenantIds = ["t"] ∧
        (r.2.fixtures.find? (.str "t")).any
          (fun f => f.apiKey = secondKey.rawKey.text) = true) = true := by
    decide +kernel
  obtain ⟨⟨st', rotation⟩, hst, hfacts⟩ := (Option.any_eq_true _ _).mp hrun
  obtain ⟨hids, hfixture⟩ := of_decide_eq_true hfacts
  obtain ⟨f, hf, hkey⟩ := (Option.any_eq_true _ _).mp hfixture
  have hok := eq_ok_of_toOption hst
  obtain ⟨hstore, hnew, hold, -⟩ :=
    rotation_hands_over keyDigests_injective bistroStore firstUse rfl rfl hok
  rw [← hstore, rotateKeys, hok] at hnew hold
  refine ⟨st', rotation, f, hok, hf, of_decide_eq_true hkey, hnew "t" f hf 5, fun st'' hfirst => ?_⟩
  have hmem : "t" ∈ rotation.tenantIds := by
    rw [show rotation.tenantIds = ["t"] from hids]
    exact List.mem_singleton_self "t"
  obtain ⟨config, hconfig, heq⟩ := hold "t" hmem _ 5 st'' hfirst
  obtain rfl := List.mem_singleton.mp hconfig
  rw [firstKey.rawKey.strip_eq] at heq
  exact absurd heq (by decide)

end OpsCopilot
