import OpsCopilot.Lib.PyDatetimeText
import OpsCopilot.Lib.PyJsonRoundTrip
import OpsCopilot.Proofs.ChainContent

/-!
# Evidence of tampering

Two chains that verify and end in the same hash tell the same events.
-/

namespace OpsCopilot

open Python Sql Fallible HashChain

/-! ### The parts of a hashed text -/

lemma EventType.mem_all (t : EventType) : t ∈ EventType.all := by
  cases t <;> decide

lemma EventType.value_injective : Function.Injective EventType.value := by
  intro a b h
  have hall : ∀ a ∈ EventType.all, ∀ b ∈ EventType.all, a.value = b.value → a = b := by decide
  exact hall a a.mem_all b b.mem_all h

lemma bar_not_mem_eventType (t : EventType) : '|' ∉ t.value.toList := by
  have hall : ∀ t ∈ EventType.all, '|' ∉ t.value.toList := by decide
  exact hall t t.mem_all

lemma bar_not_mem_isoformat (t : Timestamp) : '|' ∉ (isoformat t).toList := by
  have hdigits : ∀ width n, '|' ∉ padded width n := fun width n => not_mem_padded (by decide)
  have htail : '|' ∉ isoTail (t % 1000000) := by
    unfold isoTail
    split_ifs
    · decide
    · simp [hdigits]
  rw [toList_isoformat]
  simp [hdigits, htail]

/-- The hashed text determines everything that it is put together from. -/
theorem canonicalData_determines {p q : String} (hp : '|' ∉ p.toList) (hq : '|' ∉ q.toList)
    {a b : EventType} {j k : Json} {s t : Timestamp} {source source' : String}
    (h : canonicalData p a (j.text escapeUnicode) (canonicalTimestamp s) source =
      canonicalData q b (k.text escapeUnicode) (canonicalTimestamp t) source') :
    p = q ∧ a = b ∧ j = k ∧ canonicalTimestamp s = canonicalTimestamp t ∧ source = source' := by
  have hlist := congrArg String.toList h
  rw [toList_canonicalData, toList_canonicalData] at hlist
  simp only [List.append_assoc, List.singleton_append] at hlist
  obtain ⟨hprev, hlist⟩ := append_sep_inj hp hq hlist
  obtain ⟨htype, hlist⟩ := append_sep_inj (bar_not_mem_eventType a) (bar_not_mem_eventType b) hlist
  obtain ⟨hjson, hlist⟩ := Json.text_inj escaping_escapeUnicode j k (delimited_bar _)
    (delimited_bar _) hlist
  obtain ⟨hiso, hsource⟩ := append_sep_inj (bar_not_mem_isoformat s) (bar_not_mem_isoformat t)
    (List.cons.inj hlist).2
  exact ⟨String.toList_injective hprev, EventType.value_injective (String.toList_injective htype),
    hjson, String.toList_injective hiso, String.toList_injective hsource⟩

/-! ### Rows -/

/-- A row as the database can hold it: the payload is a JSON object and the timestamp an instant
of a `datetime`. -/
structure Event.WellFormed (e : Event) : Prop where
  payload : ∃ d, e.payload = .dict d ∧ JsonMembers d
  timestamp : IsDatetime e.timestamp

/-- Two rows tell the same event. -/
structure Event.SameContent (a b : Event) : Prop where
  eventType : a.eventType = b.eventType
  payload : a.payload.content = b.payload.content
  timestamp : a.timestamp = b.timestamp
  source : a.source = b.source

/-- What is assumed of the digest: it tells texts apart, its hexadecimal digits contain no bar, and
it never is the hash that chains start from. -/
structure TellingDigest (O : Outside) : Prop where
  injective : Function.Injective O.sha256
  noBar : ∀ s, '|' ∉ (O.sha256 s).toList
  notGenesis : ∀ s, O.sha256 s ≠ genesisHash

/-- A row that verifies carries the digest of a text. -/
lemma recomputedHash_eq {O : Outside} {e : Event} {d : Dict} (hd : e.payload = .dict d)
    (h : e.recomputedHash O = .ok e.hash) :
    ∃ j, prepare ⟨true, strDefault⟩ (.dict d) = .ok j ∧ e.hash = O.sha256 (canonicalData
      e.previousHash e.eventType (j.text escapeUnicode) (canonicalTimestamp e.timestamp)
      e.source) := by
  rw [Event.recomputedHash, hd, payload_or_empty] at h
  obtain ⟨j, hj, -, hhash⟩ := computeSha256Hash_ok.mp h
  exact ⟨j, hj, hhash.symm⟩

/-- A well-formed row with the hash that verification computes for it. -/
structure Event.Verified (O : Outside) (e : Event) : Prop where
  wellFormed : e.WellFormed
  hash : e.recomputedHash O = .ok e.hash

lemma Event.Verified.hash_eq {O : Outside} {e : Event} (h : e.Verified O) :
    ∃ text, e.hash = O.sha256 text := by
  obtain ⟨d, hd, -⟩ := h.wellFormed.payload
  obtain ⟨j, -, hhash⟩ := recomputedHash_eq hd h.hash
  exact ⟨_, hhash⟩

/-- The hash of a row determines the link and the content. -/
lemma sameContent_of_hash_eq {O : Outside} (hdigest : TellingDigest O) {a b : Event}
    (ha : a.Verified O) (hb : b.Verified O) (habar : '|' ∉ a.previousHash.toList)
    (hbbar : '|' ∉ b.previousHash.toList) (h : a.hash = b.hash) :
    a.previousHash = b.previousHash ∧ a.SameContent b := by
  obtain ⟨d, hd, hdjson⟩ := ha.wellFormed.payload
  obtain ⟨d', hd', hd'json⟩ := hb.wellFormed.payload
  obtain ⟨j, hj, hja⟩ := recomputedHash_eq hd ha.hash
  obtain ⟨k, hk, hkb⟩ := recomputedHash_eq hd' hb.hash
  rw [hja, hkb] at h
  obtain ⟨hprev, htype, hjk, htime, hsource⟩ :=
    canonicalData_determines habar hbbar (hdigest.injective h)
  refine ⟨hprev, htype, ?_,
    isoformat_inj ha.wellFormed.timestamp hb.wellFormed.timestamp htime, hsource⟩
  rw [hd, hd']
  have hjson : (Value.dict d).IsJson := hdjson
  have hjson' : (Value.dict d').IsJson := hd'json
  refine (sorted_text_eq_iff strDefault escaping_escapeUnicode hjson hjson').mp ?_
  rw [hj, hk, hjk]

/-- Lists of rows that pass the verification and have the same last hash agree row by row. -/
theorem tamper_evident {O : Outside} (hdigest : TellingDigest O) {xs ys : List Event}
    (hxs : ∀ e ∈ xs, e.WellFormed) (hys : ∀ e ∈ ys, e.WellFormed)
    (hx : verifyEvents O genesisHash xs = .ok true) (hy : verifyEvents O genesisHash ys = .ok true)
    (hlast : lastHash Event.hash genesisHash xs = lastHash Event.hash genesisHash ys) :
    xs.length = ys.length ∧ List.Forall₂ Event.SameContent xs ys := by
  obtain ⟨hxlinked, hxhashes⟩ := verifyEvents_ok.mp hx
  obtain ⟨hylinked, hyhashes⟩ := verifyEvents_ok.mp hy
  have hvalid : ∀ e : Event, e.Verified O → '|' ∉ e.hash.toList ∧ e.hash ≠ genesisHash := by
    intro e he
    obtain ⟨text, htext⟩ := he.hash_eq
    rw [htext]
    exact ⟨hdigest.noBar text, hdigest.notGenesis text⟩
  have hgenesis : '|' ∉ genesisHash.toList := by decide
  have hsame := forall₂_of_lastHash_eq Event.previousHash Event.hash
    (fun h => '|' ∉ h.toList) (Event.Verified O) Event.SameContent hgenesis hvalid
    (fun _ _ => sameContent_of_hash_eq hdigest) hxlinked (fun e he => ⟨hxs e he, hxhashes e he⟩)
    hylinked (fun e he => ⟨hys e he, hyhashes e he⟩) hlast
  exact ⟨hsame.length_eq, hsame⟩

/-! ### One payload in two orders -/

/-- Two characters for each one, none of them a bar. -/
def barlessBlock (c : Char) : List Char := if c = '|' then ['/', '/'] else ['.', c]

lemma barlessBlock_inj {c d : Char} {r s : List Char}
    (h : barlessBlock c ++ r = barlessBlock d ++ s) : c = d ∧ r = s := by
  unfold barlessBlock at h
  split_ifs at h with hc hd hd
  · exact ⟨hc.trans hd.symm, by simpa using h⟩
  · exact absurd (List.cons.inj h).1 (by decide)
  · exact absurd (List.cons.inj h).1 (by decide)
  · simpa using h

lemma flatMap_barlessBlock_inj (cs ds : List Char)
    (h : cs.flatMap barlessBlock = ds.flatMap barlessBlock) : cs = ds := by
  induction cs generalizing ds with
  | nil =>
    cases ds with
    | nil => rfl
    | cons d ds =>
      have hlen := congrArg List.length h
      unfold barlessBlock at hlen
      rw [List.flatMap_nil, List.flatMap_cons] at hlen
      split_ifs at hlen <;> simp at hlen
  | cons c cs ih =>
    cases ds with
    | nil =>
      have hlen := congrArg List.length h
      unfold barlessBlock at hlen
      rw [List.flatMap_nil, List.flatMap_cons] at hlen
      split_ifs at hlen <;> simp at hlen
    | cons d ds =>
      rw [List.flatMap_cons, List.flatMap_cons] at h
      obtain ⟨hcd, hrest⟩ := barlessBlock_inj h
      rw [hcd, ih ds hrest]

/-- The digest of the first row of a chain, and that of the row behind it. -/
def coversDigest : String := "195b43c867b7b8a1871fabf5239cc619ea98ee49aead9d3427281d4b1a8153d9"

def behindDigest : String := "e7e50f6805cb52a32d395f61805b9d6a1c69cb510cfbe12424472ac709d15e52"

def coversDigests : List (String × String) := [
  (spikeText genesisHash "\x7b\"covers\":\x7b\"friday\":45,\"monday\":30\x7d,\"note\":\"fête\"\x7d"
    ".000001" "simulator", coversDigest),
  (spikeText coversDigest "\x7b\x7d" ".000002" "simulator", behindDigest)]

/-- A text for every other one, without bars. -/
def barlessMark (s : String) : String := String.ofList ('#' :: s.toList.flatMap barlessBlock)

lemma barlessMark_injective : Function.Injective barlessMark := by
  intro s t h
  have hlist := congrArg String.toList h
  rw [barlessMark, barlessMark, String.toList_ofList, String.toList_ofList] at hlist
  exact String.toList_injective (flatMap_barlessBlock_inj _ _ (List.cons.inj hlist).2)

lemma ne_barlessMark {d : String} (hd : d.toList.head? ≠ some '#') (s : String) :
    d ≠ barlessMark s := by
  rintro rfl
  rw [barlessMark, String.toList_ofList] at hd
  exact hd rfl

lemma bar_notMem_barlessMark (s : String) : '|' ∉ (barlessMark s).toList := by
  rw [barlessMark, String.toList_ofList, List.mem_cons, List.mem_flatMap]
  rintro (h | ⟨c, -, hc⟩)
  · exact absurd h (by decide)
  · unfold barlessBlock at hc
    split_ifs at hc with hbar
    · exact absurd hc (by decide)
    · rcases List.mem_cons.mp hc with h | h
      · exact absurd h (by decide)
      · exact hbar (List.mem_singleton.mp h).symm

def coversOutside : Outside :=
  { Outside.prescribed [] with sha256 := fun s => (coversDigests.lookup s).getD (barlessMark s) }

/-- A digest is one of the two prescribed ones or a mark. -/
lemma coversOutside_cases (s : String) : coversOutside.sha256 s = barlessMark s ∨
    coversOutside.sha256 s ∈ coversDigests.map Prod.snd := by
  change (coversDigests.lookup s).getD (barlessMark s) = _ ∨ _
  cases hs : coversDigests.lookup s with
  | none => exact .inl rfl
  | some d =>
    obtain ⟨l₁, l₂, hsplit, -⟩ := List.lookup_eq_some_iff.mp hs
    have hmem : (s, d) ∈ coversDigests := hsplit ▸ List.mem_append_right l₁ List.mem_cons_self
    refine .inr (List.mem_map.mpr ⟨_, hmem, ?_⟩)
    change d = (coversDigests.lookup s).getD (barlessMark s)
    rw [hs, Option.getD_some]

lemma coversOutside_telling : TellingDigest coversOutside where
  injective := injective_lookup_getD (by decide) barlessMark_injective fun m hm =>
    ne_barlessMark (List.forall_mem_map.mp
      (by decide : ∀ d ∈ coversDigests.map Prod.snd, d.toList.head? ≠ some '#') m hm)
  noBar s := by
    rcases coversOutside_cases s with h | h
    · exact h ▸ bar_notMem_barlessMark s
    · exact (by decide : ∀ d ∈ coversDigests.map Prod.snd, '|' ∉ d.toList) _ h
  notGenesis s := by
    rcases coversOutside_cases s with h | h
    · exact h ▸ (ne_barlessMark (by decide) s).symm
    · exact (by decide : ∀ d ∈ coversDigests.map Prod.snd, d ≠ genesisHash) _ h

/-- A spike and the empty one behind it. -/
def coversChain (id behind : String) (payload : Dict) : List Event := [
  ⟨id, "t", .demandSpike, 1760000000000001, .dict payload, "simulator", coversDigest, genesisHash⟩,
  ⟨behind, "t", .demandSpike, 1760000000000002, .dict [], "simulator", behindDigest, coversDigest⟩]

/-- The payload of `coversPayload` with its members the other way round. -/
def coversReversed : Dict :=
  [(.str "covers", .dict [(.str "friday", .int 45), (.str "monday", .int 30)]),
    (.str "note", .str "fête")]

lemma coversChain_wellFormed {id behind : String} {payload : Dict} (hpayload : JsonMembers payload) :
    ∀ e ∈ coversChain id behind payload, e.WellFormed := by
  refine List.forall_mem_cons.mpr ⟨⟨⟨payload, rfl, hpayload⟩, ?_⟩,
    List.forall_mem_singleton.mpr ⟨⟨[], rfl, ?_⟩, ?_⟩⟩
  · unfold IsDatetime
    constructor <;> norm_num
  · simp [JsonMembers]
  · unfold IsDatetime
    constructor <;> norm_num

theorem covers_agree :
    (coversChain "a" "b" coversPayload).length = (coversChain "c" "d" coversReversed).length ∧
      List.Forall₂ Event.SameContent (coversChain "a" "b" coversPayload)
        (coversChain "c" "d" coversReversed) := by
  refine tamper_evident coversOutside_telling (coversChain_wellFormed ?_)
    (coversChain_wellFormed ?_) ?_ ?_ rfl
  · simp [coversPayload, JsonMembers, Value.IsJson, Key.isStr]
  · simp [coversReversed, JsonMembers, Value.IsJson, Key.isStr]
  · decide +kernel
  · decide +kernel

end OpsCopilot
