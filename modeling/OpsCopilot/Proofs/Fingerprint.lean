import OpsCopilot.Lib.PyJsonRoundTrip
import OpsCopilot.Model.Idempotency

/-!
# The canonical fingerprint separates requests

With an injective digest, two JSON requests have one fingerprint exactly when they name the
same action and their payloads are the same JSON object in any member order.
-/

namespace OpsCopilot

open Python

/-- The same action on the same JSON object. -/
def Request.Same (r s : Request) : Prop :=
  r.actionType = s.actionType ∧ (Value.dict r.payload).content = (Value.dict s.payload).content

/-- The dictionary that `request_fingerprint` writes. -/
def canonicalDict (actionType : String) (payload : Dict) : Value :=
  .dict [(.str "action_type", .str actionType), (.str "payload", .dict payload)]

lemma canonicalDict_isJson (actionType : String) {payload : Dict} (h : JsonMembers payload) :
    (canonicalDict actionType payload).IsJson := by
  refine ⟨rfl, ?_, trivial, rfl, by simp, h, trivial⟩
  simp

lemma canonicalDict_content_eq_iff {a b : String} {p q : Dict} :
    (canonicalDict a p).content = (canonicalDict b q).content ↔
      a = b ∧ (Value.dict p).content = (Value.dict q).content := by
  constructor
  · intro h
    have htable := Content.obj.inj h
    have haction := congrFun htable "action_type"
    have hpayload := congrFun htable "payload"
    simp only [valueTable, Key.str.injEq, String.reduceEq, if_true, if_false, Option.some.injEq,
      Value.content, Content.str.injEq] at haction hpayload
    exact ⟨haction, by simpa only [Value.content] using hpayload⟩
  · rintro ⟨rfl, h⟩
    simp only [canonicalDict, Value.content, valueTable] at h ⊢
    rw [h]

lemma requestFingerprint_eq (O : Outside) (a : String) (p : Dict) :
    requestFingerprint O a p =
      ((prepare ⟨true, jsonDefault O⟩ (canonicalDict a p)).map (Json.text escapeAscii)).map
        (fun cs => O.sha256 (String.ofList cs)) := by
  unfold requestFingerprint canonicalDict
  cases prepare ⟨true, jsonDefault O⟩ _ <;> rfl

lemma except_map_injective {ε α β : Type*} {f : α → β} (hf : Function.Injective f) :
    Function.Injective (Except.map f : Except ε α → Except ε β) := by
  intro x y h
  cases x <;> cases y
  · exact congrArg Except.error (Except.error.inj h)
  · cases h
  · cases h
  · exact congrArg Except.ok (hf (Except.ok.inj h))

theorem Request.fingerprint_eq_iff {O : Outside} (hsha : Function.Injective O.sha256)
    {r s : Request} (hr : JsonMembers r.payload) (hs : JsonMembers s.payload) :
    r.fingerprint O = s.fingerprint O ↔ r.Same s := by
  have hdigest : Function.Injective (fun cs => O.sha256 (String.ofList cs)) :=
    hsha.comp (fun _ _ => String.ofList_injective)
  rw [Request.fingerprint, Request.fingerprint, requestFingerprint_eq, requestFingerprint_eq,
    (except_map_injective hdigest).eq_iff,
    sorted_text_eq_iff (jsonDefault O) escaping_escapeAscii (canonicalDict_isJson _ hr)
      (canonicalDict_isJson _ hs), canonicalDict_content_eq_iff, ActionType.value_injective.eq_iff]
  rfl

/-- A JSON request always has a fingerprint. -/
lemma Request.fingerprint_ok (O : Outside) {r : Request} (hr : JsonMembers r.payload) :
    ∃ fingerprint, r.fingerprint O = .ok fingerprint := by
  obtain ⟨j, hj, -⟩ := (canonicalDict_isJson r.actionType.value hr).prepare_sorted (jsonDefault O)
  rw [Request.fingerprint, requestFingerprint_eq, hj]
  exact ⟨_, rfl⟩

end OpsCopilot
