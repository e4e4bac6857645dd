import OpsCopilot.Lib.PyContext
import OpsCopilot.Lib.PyDecimalSum
import OpsCopilot.Lib.PyJsonCharacters
import OpsCopilot.Lib.PyJsonRoundTrip
import OpsCopilot.Proofs.ProjectionRows

/-!
# Errors that leave the event store as they are

`append_event` reports its own errors and those of the database. The other exceptions of its
handlers pass through: an unordered comparison, a failed conversion, a text with a NUL. So does a
lone surrogate, which the hash cannot encode.
-/

namespace OpsCopilot

open Python Sql Fallible

/-! ### Errors that are not reported -/

mutual

lemma arrayItemError_cases (v : Value) :
    arrayItemError v = none ∨ arrayItemError v = some nulError ∨
      arrayItemError v = some cannotAdapt := by
  cases v with
  | none | bool _ | int _ | float _ | decimal _ => exact .inl rfl
  | dict _ => exact .inr (.inr rfl)
  | str s =>
    rw [arrayItemError]
    split_ifs
    · exact .inr (.inl rfl)
    · exact .inl rfl
  | list vs =>
    rw [arrayItemError]
    exact arrayError_cases vs

lemma arrayError_cases (vs : List Value) :
    arrayError vs = none ∨ arrayError vs = some nulError ∨ arrayError vs = some cannotAdapt := by
  cases vs with
  | nil => exact .inl rfl
  | cons v vs =>
    rw [arrayError]
    rcases arrayItemError_cases v with h | h | h
    · rw [h, Option.none_or]
      exact arrayError_cases vs
    · rw [h, Option.some_or]
      exact .inr (.inl rfl)
    · rw [h, Option.some_or]
      exact .inr (.inr rfl)

end

/-! ### Steps of a handler -/

section Steps

variable {β : Type} {v : Value} {d : PyDecimal} {payload : Dict} {field label message t : String}

end Steps

/-! ### Sums with a stock -/

section Sums

variable {β : Type} {x d z : PyDecimal} {p : ℚ} {message : String}

end Sums

/-! ### Handlers of single rows -/

section Handlers

variable (O : Outside) (e : Projection) (T : Tables)

end Handlers

section HandlerErrors

variable {O : Outside} {e : Projection} {T : Tables}

end HandlerErrors

/-! ### Handlers of documents with lines -/

section Lines

variable (O : Outside) (e : Projection) (T : Tables)

end Lines

/-! ### Accepted lines -/

section Accepted

variable {v : Value} {d : PyDecimal} {payload : Dict} {field label message t : String} {u : Unit}

end Accepted

section LineErrors

variable {O : Outside} {e : Projection} {T : Tables} {β : Type}

end LineErrors

/-! ### Payloads of JSON values -/

mutual

/-- The values of JSON whose numbers can be written out: floats are finite, and integers have no
more digits than Python converts. -/
def Value.Writable : Value → Prop
  | .none | .bool _ | .str _ => True
  | .int n => exceedsStrDigits n = false
  | .float x => ∃ y, x = .finite y
  | .decimal _ => False
  | .list xs => WritableItems xs
  | .dict ms => WritableMembers ms

def WritableItems : List Value → Prop
  | [] => True
  | x :: xs => Value.Writable x ∧ WritableItems xs

def WritableMembers : List (Key × Value) → Prop
  | [] => True
  | (_, v) :: ms => Value.Writable v ∧ WritableMembers ms

end

lemma WritableMembers.get {payload : Dict} (h : WritableMembers payload) (field : String) :
    Value.Writable (payload.get field) := by
  suffices hfind : ∀ v, payload.find? field = some v → Value.Writable v by
    unfold Dict.get
    cases hv : Dict.find? field payload with
    | none => exact trivial
    | some v => exact hfind v hv
  induction payload with
  | nil =>
    intro v hv
    cases hv
  | cons m ms ih =>
    intro v hv
    obtain ⟨key, w⟩ := m
    cases key with
    | str k =>
      rw [Dict.find?] at hv
      split_ifs at hv
      · rw [← Option.some.inj hv]
        exact h.1
      · exact ih h.2 v hv
    | none | bool _ | int _ | float _ => exact ih h.2 v hv

lemma Value.Writable.toInt {v : Value} (h : Value.Writable v) :
    v.toInt ≠ .error .overflowError := by
  cases v with
  | decimal _ => exact absurd h id
  | float x =>
    obtain ⟨y, rfl⟩ := h
    simp [Value.toInt]
  | str s =>
    rw [Value.toInt]
    cases intOfText s <;> simp
  | none | bool _ | int _ | list _ | dict _ => simp [Value.toInt]

/-! ### Staffing changes -/

section Staffing

variable (O : Outside) (e : Projection)

variable {O e} {T : Tables} {β : Type}

end Staffing

/-! ### Appends -/

section Append

variable (O : Outside) (tenantId : String) (eventType : EventTypeArg) (payload : Dict)
  (source : String) (draw : Draw) (db : Db)

variable {O tenantId eventType payload source draw db}

end Append

end OpsCopilot
