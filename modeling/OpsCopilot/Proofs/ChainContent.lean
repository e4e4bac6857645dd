import OpsCopilot.Lib.PyJsonStable
import OpsCopilot.Proofs.EventAppend

/-!
# Verifying what was appended

The hash of an event is computed from the arguments of `append_event` and verified from the
stored row. The two agree exactly when storing changes neither the source nor the sorted
payload.
-/

namespace OpsCopilot

open Python Sql Fallible HashChain

/-- Storing an event leaves what its hash is computed from as it is: the source is not trimmed,
and the keys of every dictionary in the payload sort like the strings they are stored as. -/
def SurvivesStorage (payload : Dict) (source : String) : Prop :=
  strip source = source ∧ (Value.dict payload).KeysStable

/-- The one row that an append has added verifies by itself. -/
def RowRecomputes (O : Outside) (db db' : Db) : Prop :=
  ∃ row, db'.events = db.events ++ [row] ∧ row.recomputedHash O = .ok row.hash

/-! ### The hashed text -/

lemma delimited_bar (r : List Char) : Delimited ('|' :: r) := delimited_cons (by decide)

lemma toList_canonicalData (previousHash : String) (eventType : EventType) (json : List Char)
    (timestampIso source : String) :
    (canonicalData previousHash eventType json timestampIso source).toList =
      (previousHash.toList ++ ['|'] ++ eventType.value.toList ++ ['|']) ++
        (json ++ '|' :: (timestampIso.toList ++ '|' :: source.toList)) := by
  simp only [canonicalData, String.toList_append, String.toList_ofList, List.append_assoc]
  rfl

/-- The hashed text determines the document and the source. -/
lemma canonicalData_inj {previousHash : String} {eventType : EventType} {j k : Json}
    {timestampIso source source' : String} :
    canonicalData previousHash eventType (j.text escapeUnicode) timestampIso source =
      canonicalData previousHash eventType (k.text escapeUnicode) timestampIso source' ↔
    j = k ∧ source = source' := by
  constructor
  · intro h
    have hlist := congrArg String.toList h
    rw [toList_canonicalData, toList_canonicalData] at hlist
    obtain ⟨hjson, hrest⟩ := Json.text_inj escaping_escapeUnicode j k (delimited_bar _)
      (delimited_bar _) (List.append_cancel_left hlist)
    have hsource := List.append_cancel_left (List.cons.inj hrest).2
    exact ⟨hjson, String.toList_injective (List.cons.inj hsource).2⟩
  · rintro ⟨rfl, rfl⟩
    rfl

/-! ### The appended row -/

/-- A JSON column gives a dictionary back as a dictionary. -/
lemma loadsDumps_dict {d : Dict} {v : Value} (h : loadsDumps (.dict d) = .ok v) :
    ∃ stored, v = .dict stored := by
  obtain ⟨j, hj, rfl⟩ := map_ok.mp h
  rw [prepare] at hj
  obtain ⟨js, -, hjs⟩ := bind_ok.mp hj
  obtain rfl := Except.ok.inj hjs
  exact ⟨_, rfl⟩

lemma payload_or_empty (d : Dict) :
    (if (Value.dict d).truthy then Value.dict d else .dict []) = .dict d := by
  cases d with
  | nil => rfl
  | cons m d => rfl

/-- The two texts whose digests `recomputedHash` compares: a text that storing leaves as it is can
be encoded again. -/
lemma AppendedRow.exists_texts {O : Outside} {tenantId : String} {eventType : EventType}
    {payload : Dict} {source : String} {draw : Draw} {db : Db} {row : Event}
    (h : AppendedRow O tenantId eventType payload source draw db row)
    (hkeys : (Value.dict payload).DistinctKeys) : ∃ stored given,
      (row.recomputedHash O = .ok row.hash → O.sha256 stored = O.sha256 given) ∧
        (stored = given → row.recomputedHash O = .ok row.hash) ∧
        (stored = given ↔ SurvivesStorage payload source) := by
  obtain ⟨j, hj, hencodes, hhash⟩ := computeSha256Hash_ok.mp h.hash_eq
  obtain ⟨k, hk, hstable⟩ := prepare_stored_eq_iff strDefault hkeys hj h.payload_eq
  obtain ⟨stored, hstored⟩ := loadsDumps_dict h.payload_eq
  have hrecomputed : row.recomputedHash O = .ok row.hash ↔
      ∃ k, prepare ⟨true, strDefault⟩ row.payload = .ok k ∧
        ¬(k.text escapeUnicode ++ (strip source).toList).any O.loneSurrogate = true ∧
        O.sha256 (canonicalData row.previousHash eventType (k.text escapeUnicode)
          (canonicalTimestamp draw.now) (strip source)) = row.hash := by
    rw [Event.recomputedHash, hstored, payload_or_empty, ← hstored, h.eventType_eq, h.timestamp_eq,
      h.source_eq, computeSha256Hash_ok]
  have hsame : canonicalData row.previousHash eventType (k.text escapeUnicode)
      (canonicalTimestamp draw.now) (strip source) = canonicalData row.previousHash eventType
      (j.text escapeUnicode) (canonicalTimestamp draw.now) source ↔
        k = j ∧ strip source = source := canonicalData_inj
  refine ⟨_, _, fun hrow => ?_, fun htexts => ?_, hsame.trans ?_⟩
  · obtain ⟨k', hk', -, hdigest⟩ := hrecomputed.mp hrow
    obtain rfl := Except.ok.inj (hk.symm.trans hk')
    exact hdigest.trans hhash.symm
  · obtain ⟨rfl, hsource⟩ := hsame.mp htexts
    refine hrecomputed.mpr ⟨k, hk, ?_, ?_⟩
    · rw [hsource]
      exact hencodes
    · rw [htexts]
      exact hhash
  · rw [SurvivesStorage, ← hstable]
    constructor
    · rintro ⟨hkj, hsource⟩
      exact ⟨hsource, hkj.symm⟩
    · rintro ⟨hsource, hjk⟩
      exact ⟨hjk.symm, hsource⟩

lemma AppendedRow.recomputes_iff {O : Outside} (hsha : Function.Injective O.sha256)
    {tenantId : String} {eventType : EventType} {payload : Dict} {source : String} {draw : Draw}
    {db : Db} {row : Event} (h : AppendedRow O tenantId eventType payload source draw db row)
    (hkeys : (Value.dict payload).DistinctKeys) :
    row.recomputedHash O = .ok row.hash ↔ SurvivesStorage payload source := by
  obtain ⟨stored, given, hdigests, hrecomputes, hsame⟩ := h.exists_texts hkeys
  rw [← hsame]
  exact ⟨fun hrow => hsha (hdigests hrow), hrecomputes⟩

/-- Whatever the digest is, it is the same where storing leaves the text as it is. -/
lemma AppendedRow.recomputes {O : Outside} {tenantId : String} {eventType : EventType}
    {payload : Dict} {source : String} {draw : Draw} {db : Db} {row : Event}
    (h : AppendedRow O tenantId eventType payload source draw db row)
    (hkeys : (Value.dict payload).DistinctKeys) (hsurvives : SurvivesStorage payload source) :
    row.recomputedHash O = .ok row.hash := by
  obtain ⟨stored, given, -, hrecomputes, hsame⟩ := h.exists_texts hkeys
  exact hrecomputes (hsame.mpr hsurvives)

/-! ### The chain -/

lemma Db.tenantEvents_keys {db : Db} (hids : (db.events.map Event.id).Nodup) (tenantId : String) :
    ∀ a ∈ db.tenantEvents tenantId, ∀ b ∈ db.tenantEvents tenantId,
      Event.le a b → Event.le b a → a = b := by
  intro a ha b hb hab hba
  exact List.inj_on_of_nodup_map hids (List.mem_of_mem_filter ha) (List.mem_of_mem_filter hb)
    (Event.id_eq_of_le hab hba)

/-- A row with the latest timestamp is read back last. -/
lemma chain_append {db db' : Db} {tenantId : String} {row : Event}
    (hevents : db'.tenantEvents tenantId = db.tenantEvents tenantId ++ [row])
    (hlater : ∀ e ∈ db.tenantEvents tenantId, e.timestamp < row.timestamp) :
    db'.chain tenantId = db.chain tenantId ++ [row] := by
  rw [Db.chain, hevents, ascending_append Event.le (fun e he => .inl (hlater e he))]
  rfl

/-- A call that the store accepts leaves a row that verifies, and a chain that verifies if it did
before, exactly when storing leaves the source and the sorted payload as they are. -/
theorem appendEvent_verifies_iff {O : Outside} (hsha : Function.Injective O.sha256)
    {tenantId : String} {eventType : EventTypeArg} {payload : Dict} {source : String}
    {draw : Draw} {db db' : Db} (hkeys : (Value.dict payload).DistinctKeys)
    (hids : (db.events.map Event.id).Nodup)
    (happend : appendEvent O tenantId eventType payload source draw db = .ok db') :
    (RowRecomputes O db db' ↔ SurvivesStorage payload source) ∧
      (verifyChainIntegrity O tenantId db = .ok true →
        (∀ e ∈ db.tenantEvents tenantId, e.timestamp < draw.now) →
        (verifyChainIntegrity O tenantId db' = .ok true ↔ SurvivesStorage payload source)) := by
  obtain ⟨member, -, -, happended⟩ := appendEvent_spec happend
  obtain ⟨row, hrow, hevents⟩ := happended.row
  have hrecomputes := hrow.recomputes_iff hsha hkeys
  constructor
  · rw [← hrecomputes]
    constructor
    · rintro ⟨row', hevents', hrow'⟩
      obtain rfl : row = row' := by
        have hsame := List.append_cancel_left (hevents.symm.trans hevents')
        exact (List.cons.inj hsame).1
      exact hrow'
    · intro h
      exact ⟨row, hevents, h⟩
  · intro hverifies hlater
    obtain ⟨row', hrow', htenant, -⟩ := happended.tenantEvents_eq
    have hchain : db'.chain tenantId = db.chain tenantId ++ [row'] :=
      chain_append htenant (fun e he => hrow'.timestamp_eq ▸ hlater e he)
    have hlast : row'.previousHash = lastHash Event.hash genesisHash (db.chain tenantId) := by
      rw [hrow'.previousHash_eq, Db.latestEvent,
        latest_eq_getLast Event.le (db.tenantEvents_keys hids tenantId)]
      rfl
    rw [verifyChainIntegrity] at hverifies ⊢
    obtain ⟨hlinked, hhashes⟩ := verifyEvents_ok.mp hverifies
    rw [verifyEvents_ok, hchain, linked_append, ← hrow'.recomputes_iff hsha hkeys]
    constructor
    · rintro ⟨-, hall⟩
      exact hall row' (by simp)
    · intro hnew
      refine ⟨⟨hlinked, hlast⟩, ?_⟩
      intro e he
      rcases List.mem_append.mp he with he | he
      · exact hhashes e he
      · rw [List.mem_singleton.mp he]
        exact hnew

/-! ### Three appends to an empty chain -/

/-- One tenant, nothing recorded yet. -/
def oneTenant (tenantId : String) : Db := ⟨[tenantId], Tables.empty, [], [], [], []⟩

def spikeText (previousHash json fraction source : String) : String :=
  previousHash ++ "|demand_spike|" ++ json ++ "|2025-10-09T08:53:20" ++ fraction ++ "+00:00|" ++ source

/-- The digest of an empty spike, the first event of its chain. -/
def firstSpikeHash : String := "e20053eeceb3de9d0b854b12385e33e8db7d820bc6caca4c080a0affabf9b0b5"

/-- The digests of the texts of some demand spikes, as written and as read back. -/
def spikeDigests : Outside := Outside.prescribed [
  (spikeText genesisHash "\x7b\"covers\":\x7b\"friday\":45,\"monday\":30\x7d,\"note\":\"fête\"\x7d" ".000001"
    "simulator", "195b43c867b7b8a1871fabf5239cc619ea98ee49aead9d3427281d4b1a8153d9"),
  (spikeText genesisHash "\x7b\"9\":\"a\",\"10\":\"b\"\x7d" ".000001" "simulator",
    "4461bf8fd16b0093e9efdb1fe81c7d3e0ca24566cc6b8d18a61e7582a443e9f1"),
  (spikeText genesisHash "\x7b\"10\":\"b\",\"9\":\"a\"\x7d" ".000001" "simulator",
    "904e0028c40d0876799df9a4a650c7cd488eedde68d0adeb9e253d68031ca4c5"),
  (spikeText genesisHash "\x7b\x7d" ".000001" " simulator ",
    "28839905b95e692a53b5c185f6fe3d0e467b93dcaded2984ef07a51c635f26ce"),
  (spikeText genesisHash "\x7b\x7d" ".000001" "simulator", firstSpikeHash),
  (spikeText firstSpikeHash "\x7b\x7d" "" "simulator",
    "7de034f42682b885394389608e60d0e7f8fd231aa18c15ee24114151ceafcb0b"),
  (spikeText firstSpikeHash "\x7b\x7d" ".000001" "simulator",
    "9361cf8dfdfcd9251e4b30e273d4f41fe0447edde0288a7cbd79383f221981ab"),
  (spikeText firstSpikeHash "\x7b\x7d" ".000002" "simulator",
    "47b378cbd14bb1b4d2796397141bebe148d71e2a3c39338896c37037acdc7647")]

lemma spikeDigests_injective : Function.Injective spikeDigests.sha256 := by
  apply Outside.prescribed_injective
  · decide
  · decide

def spikeDraw : Draw := ⟨1760000000000001, "e1", "r1"⟩

/-- The demand spike of a tenant, appended first. -/
def appendSpike (payload : Dict) (source : String) : Except PyException Db :=
  appendEvent spikeDigests "t" (.member .demandSpike) payload source spikeDraw (oneTenant "t")

def coversPayload : Dict :=
  [(.str "note", .str "fête"),
    (.str "covers", .dict [(.str "monday", .int 30), (.str "friday", .int 45)])]

/-- Nested string keys in any order survive. -/
theorem string_keys_verify :
    ∃ db', appendSpike coversPayload "simulator" = .ok db' ∧
      RowRecomputes spikeDigests (oneTenant "t") db' ∧
      verifyChainIntegrity spikeDigests "t" db' = .ok true := by
  have happend : ∃ db', appendSpike coversPayload "simulator" = .ok db' := ⟨_, rfl⟩
  obtain ⟨db', happend⟩ := happend
  have hstable : SurvivesStorage coversPayload "simulator" := by
    refine ⟨by decide, ?_⟩
    simp [coversPayload, Value.KeysStable, MembersKeysStable, TextOrdered, Key.isStr]
  have hdistinct : (Value.dict coversPayload).DistinctKeys := by
    simp [coversPayload, Value.DistinctKeys, MembersDistinctKeys, Key.Same, Key.isNumber]
  have hids : ((oneTenant "t").events.map Event.id).Nodup := List.nodup_nil
  obtain ⟨hrow, hchain⟩ := appendEvent_verifies_iff spikeDigests_injective hdistinct hids happend
  exact ⟨db', happend, hrow.mpr hstable, (hchain rfl (fun e he => absurd he List.not_mem_nil)).mpr hstable⟩

/-- The row of a spike whose stored payload and source are given. -/
def spikeRow (payload : Dict) (hash : String) : Event :=
  ⟨"e1", "t", .demandSpike, 1760000000000001, .dict payload, "simulator", hash, genesisHash⟩

def afterSpike (row : Event) : Db := { oneTenant "t" with events := [row] }

def numberKeysRow : Event :=
  spikeRow [(.str "10", .str "b"), (.str "9", .str "a")]
    "4461bf8fd16b0093e9efdb1fe81c7d3e0ca24566cc6b8d18a61e7582a443e9f1"

def blankSourceRow : Event :=
  spikeRow [] "28839905b95e692a53b5c185f6fe3d0e467b93dcaded2984ef07a51c635f26ce"

set_option maxRecDepth 4000 in
/-- Number keys that sort unlike their texts, and a source with a blank around it, are accepted
and then break the chain. -/
theorem stored_row_mismatches :
    (appendSpike [(.int 10, .str "b"), (.int 9, .str "a")] "simulator" =
        .ok (afterSpike numberKeysRow) ∧
      verifyChainIntegrity spikeDigests "t" (oneTenant "t") = .ok true ∧
      verifyChainIntegrity spikeDigests "t" (afterSpike numberKeysRow) =
        .error (hashMismatch numberKeysRow
          "904e0028c40d0876799df9a4a650c7cd488eedde68d0adeb9e253d68031ca4c5")) ∧
    appendSpike [] " simulator " = .ok (afterSpike blankSourceRow) ∧
      verifyChainIntegrity spikeDigests "t" (afterSpike blankSourceRow) =
        .error (hashMismatch blankSourceRow
          firstSpikeHash) :=
  ⟨⟨rfl, rfl, rfl⟩, rfl, rfl⟩

end OpsCopilot
