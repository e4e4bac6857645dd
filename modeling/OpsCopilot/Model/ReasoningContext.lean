import OpsCopilot.Model.Reasoning

/-!
# What the language model is shown

The context of `reasoning_context.py`: numbers, and strings that have the form of an identifier.
-/

namespace OpsCopilot

open Python Fallible

/-- The characters of `_IDENTIFIER_RE`. -/
def identifierChar (c : Char) : Bool :=
  c.isAlphanum || c == '_' || c == '.' || c == ':' || c == '-'

/-- `_IDENTIFIER_RE.fullmatch`. -/
def isIdentifier (s : String) : Bool :=
  1 ≤ s.toList.length && s.toList.length ≤ 80 && s.toList.all identifierChar

/-- `_safe_identifier`. -/
def safeIdentifier (s : String) : Option String := if isIdentifier s then some s else none

section Safe

variable (O : Outside)

mutual

/-- `_safe_value`; `none` stands for `_DROP`. -/
def safeValue : Value → Option Value
  | .float (.finite x) => some (.float (.finite x))
  | .float _ => none
  | .decimal (.finite neg coeff exp) => some (.float (O.floatOfDecimal (.finite neg coeff exp)))
  | .decimal _ => none
  | .str s => if isIdentifier s then some (.str s) else none
  | .list xs => some (.list (safeItems xs))
  | .dict _ => none
  | v => some v

def safeItems : List Value → List Value
  | [] => []
  | x :: xs =>
    match safeValue x with
    | none => safeItems xs
    | some cleaned => cleaned :: safeItems xs

end

/-- Whether items of a list were dropped. -/
def lostItems : Value → Value → Bool
  | .list xs, .list cleaned => cleaned.length ≠ xs.length
  | _, _ => false

/-- What is kept of one field of the evidence. -/
def safeField : Key × Value → Option (String × Value)
  | (.str k, value) => if isIdentifier k then (safeValue O value).map (fun v => (k, v)) else none
  | _ => none

/-- The loop of `_safe_evidence`: what is safe so far, and how much was dropped. -/
def safeEvidenceLoop : Dict × ℕ → Dict → Dict × ℕ
  | acc, [] => acc
  | acc, m :: rest =>
    match safeField O m with
    | none => safeEvidenceLoop (acc.1, acc.2 + 1) rest
    | some (k, cleaned) =>
      safeEvidenceLoop (Dict.assign (.str k) cleaned acc.1,
        acc.2 + (if lostItems m.2 cleaned then 1 else 0)) rest

/-- `_safe_evidence`. -/
def safeEvidence (evidence : Dict) : Dict × ℕ := safeEvidenceLoop O ([], 0) evidence

/-- `_SUMMARY_BY_TYPE`. -/
def OpportunityType.summary : OpportunityType → String
  | .marginDeterioration => "A menu item's contribution margin is below the target."
  | .stockoutExposure => "An ingredient's inventory is at or below the low-stock threshold."
  | .demandDecline =>
    "A menu item's order volume fell materially versus the prior period."

def safeEntityIds (o : Opportunity) : List String :=
  o.affectedEntityIds.filter (fun id => (safeIdentifier id).isSome)

/-- `_opportunity_view`. -/
def opportunityView (o : Opportunity) : Dict :=
  [(.str "id", .str ((safeIdentifier o.id).getD o.opportunityType.value)),
    (.str "opportunity_type", .str o.opportunityType.value),
    (.str "summary", .str o.opportunityType.summary),
    (.str "affected_entity_ids", .list ((safeEntityIds o).map .str)),
    (.str "estimated_monthly_impact", .float (.finite o.estimatedMonthlyImpact)),
    (.str "confidence", .float (.finite o.confidence)),
    (.str "evidence", .dict (safeEvidence O o.evidence).1)]

end Safe

end OpsCopilot
