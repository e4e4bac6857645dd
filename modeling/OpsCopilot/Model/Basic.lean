import OpsCopilot.Lib.PyString
import OpsCopilot.Lib.PyJson

namespace OpsCopilot

open Python

/-! ### Actions -/

inductive ActionType where
  | priceChange
  | supplierSwitch
  | menuSwap
  | staffingChange
deriving DecidableEq

def ActionType.value : ActionType → String
  | .priceChange => "price_change"
  | .supplierSwitch => "supplier_switch"
  | .menuSwap => "menu_swap"
  | .staffingChange => "staffing_change"

def ActionType.all : List ActionType := [.priceChange, .supplierSwitch, .menuSwap, .staffingChange]

/-- `ActionType(text)`. -/
def ActionType.ofValue (text : String) : Option ActionType :=
  ActionType.all.find? (fun a => a.value = text)

lemma ActionType.mem_all (a : ActionType) : a ∈ ActionType.all := by
  cases a <;> decide

lemma ActionType.value_injective : Function.Injective ActionType.value := by
  intro a b h
  have hall : ∀ a ∈ ActionType.all, ∀ b ∈ ActionType.all, a.value = b.value → a = b := by decide
  exact hall a a.mem_all b b.mem_all h

/-! ### Exceptions -/

/-- The classes of the exceptions that the modelled code raises or tells apart. -/
inductive ErrorClass where
  | typeError
  | valueError
  | keyError
  | indexError
  | attributeError
  | unboundLocalError
  | overflowError
  | invalidOperation
  | unicodeEncodeError
  | noResultFound
  | integrityError
  | operationalError
  | toolFrameworkError
  | unsupportedToolActionError
  | toolBusyError
  | idempotencyKeyReuseError
  | syntheticGuardError
  | dataError
  | programmingError
  | statementError
  | multipleResultsFound
  | eventStoreError
  | tenantIsolationError
  | invalidEventError
  | hashChainCorruptedError
  | simulatorInputError
  | decisionNotFoundError
  | decisionStateError
  | invalidPredictionError
  | decimalOverflow
  | jsonDecodeError
  | recursionError
  | llmReasonerError
  | candidateValidationError
  | pipelineConfigError
  | divisionByZero
deriving DecidableEq

/-- `type(error).__name__`. -/
def ErrorClass.name : ErrorClass → String
  | .typeError => "TypeError"
  | .valueError => "ValueError"
  | .keyError => "KeyError"
  | .indexError => "IndexError"
  | .attributeError => "AttributeError"
  | .unboundLocalError => "UnboundLocalError"
  | .overflowError => "OverflowError"
  | .invalidOperation => "InvalidOperation"
  | .unicodeEncodeError => "UnicodeEncodeError"
  | .noResultFound => "NoResultFound"
  | .integrityError => "IntegrityError"
  | .operationalError => "OperationalError"
  | .toolFrameworkError => "ToolFrameworkError"
  | .unsupportedToolActionError => "UnsupportedToolActionError"
  | .toolBusyError => "ToolBusyError"
  | .idempotencyKeyReuseError => "IdempotencyKeyReuseError"
  | .syntheticGuardError => "SyntheticGuardError"
  | .dataError => "DataError"
  | .programmingError => "ProgrammingError"
  | .statementError => "StatementError"
  | .multipleResultsFound => "MultipleResultsFound"
  | .eventStoreError => "EventStoreError"
  | .tenantIsolationError => "TenantIsolationError"
  | .invalidEventError => "InvalidEventError"
  | .hashChainCorruptedError => "HashChainCorruptedError"
  | .simulatorInputError => "SimulatorInputError"
  | .decisionNotFoundError => "DecisionNotFoundError"
  | .decisionStateError => "DecisionStateError"
  | .invalidPredictionError => "InvalidPredictionError"
  | .decimalOverflow => "Overflow"
  | .jsonDecodeError => "JSONDecodeError"
  | .recursionError => "RecursionError"
  | .llmReasonerError => "LLMReasonerError"
  | .candidateValidationError => "CandidateValidationError"
  | .pipelineConfigError => "PipelineConfigError"
  | .divisionByZero => "DivisionByZero"

/-- `isinstance(error, ToolFrameworkError)`. -/
def ErrorClass.isToolFrameworkError : ErrorClass → Bool
  | .toolFrameworkError | .unsupportedToolActionError | .toolBusyError => true
  | _ => false

/-- `isinstance(error, SQLAlchemyError)`. -/
def ErrorClass.isSqlAlchemyError : ErrorClass → Bool
  | .noResultFound | .integrityError | .operationalError | .dataError | .programmingError
  | .statementError | .multipleResultsFound => true
  | _ => false

/-- `isinstance(error, EventStoreError)`. -/
def ErrorClass.isEventStoreError : ErrorClass → Bool
  | .eventStoreError | .tenantIsolationError | .invalidEventError | .hashChainCorruptedError => true
  | _ => false

structure PyException where
  cls : ErrorClass
  message : String
deriving DecidableEq

def PyException.ofStd (e : StdError) : PyException :=
  match e with
  | .typeError => ⟨.typeError, "Object of type Decimal is not JSON serializable"⟩
  | .valueError => ⟨.valueError, "invalid literal"⟩
  | .overflowError => ⟨.overflowError, "cannot convert float infinity to integer"⟩
  | .invalidOperation => ⟨.invalidOperation, "[<class 'decimal.ConversionSyntax'>]"⟩
  | .unicodeEncodeError =>
    ⟨.unicodeEncodeError, "'utf-8' codec can't encode character: surrogates not allowed"⟩

def decimalOverflow : PyException := ⟨.decimalOverflow, "[<class 'decimal.Overflow'>]"⟩

/-! ### What lies outside -/

/-- The library functions taken as given. -/
structure Outside where
  /-- The hexadecimal digest of the UTF-8 bytes of a string. -/
  sha256 : String → String
  /-- Which characters stand for the lone surrogates of a Python string, for which Lean's strings
  have no characters of their own. -/
  loneSurrogate : Char → Bool
  surrogate_beyond : BeyondAscii loneSurrogate
  /-- `float(d)` of a `Decimal`. -/
  floatOfDecimal : PyDecimal → PyFloat
  /-- `repr(v)`, which is `str(v)` for a list or a dictionary. -/
  containerText : Value → String
  /-- What the database driver makes of a value that is written into a text column and is not a
  string; `none` when it refuses the value. -/
  columnText : Value → Option String

/-- A library whose digest has the prescribed values, and marks every other text by a `#`. -/
def Outside.prescribed (known : List (String × String)) : Outside where
  sha256 s := (known.lookup s).getD ("#" ++ s)
  loneSurrogate _ := false
  surrogate_beyond _ _ := rfl
  floatOfDecimal
    | .nan => .nan
    | .inf neg => .inf neg
    | .finite neg coeff exp => .finite (.ofDigits neg coeff exp)
  containerText _ := "[...]"
  columnText _ := none

/-- Prescribed values are told apart from the marks of all other texts. -/
lemma injective_lookup_getD {known : List (String × String)} {mark : String → String}
    (hvalues : (known.map Prod.snd).Nodup) (hmark : Function.Injective mark)
    (hfresh : ∀ m ∈ known, ∀ s, m.2 ≠ mark s) :
    Function.Injective (fun s => (known.lookup s).getD (mark s)) := by
  have hmem : ∀ s d, known.lookup s = some d → (s, d) ∈ known := by
    intro s d h
    obtain ⟨l₁, l₂, rfl, -⟩ := List.lookup_eq_some_iff.mp h
    exact List.mem_append_right l₁ List.mem_cons_self
  intro s t h
  dsimp only at h
  cases hs : known.lookup s with
  | some d =>
    cases ht : known.lookup t with
    | some e =>
      rw [hs, ht] at h
      have hpair := List.inj_on_of_nodup_map hvalues (hmem s d hs) (hmem t e ht) h
      exact congrArg Prod.fst hpair
    | none =>
      rw [hs, ht] at h
      exact absurd h (hfresh (s, d) (hmem s d hs) t)
  | none =>
    cases ht : known.lookup t with
    | some e =>
      rw [hs, ht] at h
      exact absurd h.symm (hfresh (t, e) (hmem t e ht) s)
    | none =>
      rw [hs, ht] at h
      exact hmark h

lemma Outside.prescribed_injective {known : List (String × String)}
    (hvalues : (known.map Prod.snd).Nodup)
    (hmark : ∀ m ∈ known, m.2.toList.head? ≠ some '#') :
    Function.Injective (Outside.prescribed known).sha256 := by
  refine injective_lookup_getD hvalues (fun s t h => ?_) (fun m hm s h => ?_)
  · have hlist := congrArg String.toList h
    rw [String.toList_append, String.toList_append] at hlist
    exact String.toList_injective (List.append_cancel_left hlist)
  · have hhead := hmark m hm
    rw [h, String.toList_append] at hhead
    exact hhead rfl

/-- A clock reading in microseconds. -/
abbrev Timestamp := ℤ

end OpsCopilot
