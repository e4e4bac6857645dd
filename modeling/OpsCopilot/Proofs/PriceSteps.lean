import OpsCopilot.Lib.PyDecimalSum
import OpsCopilot.Lib.PyFloat
import OpsCopilot.Proofs.LlmProposals

/-!
# Prices on the step

What the deterministic rules make of a proposed price: the multiple of the price step next to it,
halves up, as far as a float can hold it.
-/

namespace OpsCopilot

open Python Fallible

lemma Outside.prescribed_floatReading (known : List (String × String)) :
    FloatReading (Outside.prescribed known).floatOfDecimal where
  exact neg coeff exp n e h _ _ _ := ⟨_, rfl, (FiniteFloat.toRat_ofDigits neg coeff exp).trans h⟩
  near neg coeff exp x hx _ := by
    cases hx
    rw [FiniteFloat.toRat_ofDigits, sub_self, abs_zero]
    positivity
  bounded neg coeff exp _ := ⟨_, rfl⟩

variable {O : Outside}

lemma roundContext_finite (neg : Bool) (coeff : ℕ) (exp : ℤ) :
    ∃ neg' coeff' exp', roundContext neg coeff exp = .finite neg' coeff' exp' := by
  unfold roundContext
  dsimp only
  split_ifs
  · exact ⟨neg, coeff, exp, rfl⟩
  · exact ⟨neg, _, _, rfl⟩

lemma decimalRat_steps (n : ℤ) : decimalRat (n < 0) (25 * n.natAbs) (-2) = n / 4 := by
  have hscale : decimalRat (n < 0) (25 * n.natAbs) (-2) =
      decimalRat (n < 0) n.natAbs 0 * (25 * 10 ^ (-2 : ℤ)) := by
    unfold decimalRat
    push_cast
    ring
  rw [hscale, decimalRat_natAbs]
  norm_num
  ring

/-- A float that stands for a number of price steps, exactly unless the number is enormous. -/
structure Snapped (O : Outside) (n : ℤ) (x : FiniteFloat) : Prop where
  read : O.floatOfDecimal (roundContext (n < 0) (25 * n.natAbs) (-2)) = .finite x
  near : |x.toRat - n / 4| ≤ 2 * 10 ^ (-15 : ℤ) * |(n / 4 : ℚ)|
  exact : n.natAbs < 10 ^ 13 → x.toRat = n / 4

theorem floatOfSteps (hfloat : FloatReading O.floatOfDecimal) {n : ℤ} (hn : n.natAbs < 10 ^ 28) :
    ∃ x, Snapped O n x := by
  by_cases hsmall : n.natAbs < 10 ^ 13
  · have hkept : roundContext (n < 0) (25 * n.natAbs) (-2) =
        .finite (n < 0) (25 * n.natAbs) (-2) := by
      refine if_pos ((Nat.length_toDigits_le_iff (by norm_num) (by decide)).mpr ?_)
      unfold contextPrecision
      omega
    obtain ⟨x, hx, hrat⟩ := hfloat.exact (n < 0) (25 * n.natAbs) (-2) (25 * n.natAbs) (-2) rfl
      (by omega) (by norm_num) (by norm_num)
    rw [decimalRat_steps] at hrat
    refine ⟨x, ⟨by rw [hkept, hx], ?_, fun _ => hrat⟩⟩
    rw [hrat, sub_self, abs_zero]
    positivity
  · obtain ⟨r, hr, hclose⟩ := roundContext_close (n < 0) (25 * n.natAbs) (-2)
    obtain ⟨neg, coeff, exp, hfinite⟩ := roundContext_finite (n < 0) (25 * n.natAbs) (-2)
    rw [hfinite] at hr
    have hrat : decimalRat neg coeff exp = r := Option.some.inj hr
    rw [decimalRat_steps] at hclose
    obtain ⟨m, hm⟩ : ∃ m : ℚ, m = |(n / 4 : ℚ)| := ⟨_, rfl⟩
    have habs : (n.natAbs : ℚ) = 4 * m := by
      rw [hm, abs_div, Nat.cast_natAbs, Int.cast_abs, abs_of_pos (by norm_num : (0 : ℚ) < 4)]
      ring
    have hlow : (10 : ℚ) ^ 13 ≤ 4 * m := by
      rw [← habs]
      exact_mod_cast not_lt.mp hsmall
    have hhigh : 4 * m < (10 : ℚ) ^ 28 := by
      rw [← habs]
      exact_mod_cast hn
    have hdistance := abs_le.mp ((abs_abs_sub_abs_le r (n / 4)).trans hclose)
    rw [← hm] at hclose hdistance
    norm_num at hclose hdistance hlow hhigh
    have hone : 1 ≤ |r| := by linarith
    have hbig : |r| ≤ 10 ^ 28 := by linarith
    obtain ⟨x, hx⟩ := hfloat.bounded neg coeff exp
      (by rw [hrat]; exact hbig.trans (pow_le_pow_right₀ (by norm_num) (by norm_num)))
    have hnear := hfloat.near neg coeff exp x hx
      (by rw [hrat]; exact (zpow_le_one_of_nonpos₀ (by norm_num) (by norm_num)).trans hone)
    refine ⟨x, ⟨by rw [hfinite, hx], ?_, fun h => absurd h hsmall⟩⟩
    rw [hrat] at hnear
    have htriangle := abs_sub_le x.toRat r (n / 4)
    rw [← hm]
    norm_num at hnear ⊢
    linarith

lemma Snapped.pos_iff {n : ℤ} {x : FiniteFloat} (h : Snapped O n x) : 0 < x.toRat ↔ 0 < n := by
  have hnear := abs_le.mp h.near
  constructor
  · intro hx
    by_contra hn
    have hn' : (n / 4 : ℚ) ≤ 0 := by
      have hcast : (n : ℚ) ≤ 0 := by exact_mod_cast not_lt.mp hn
      linarith
    rw [abs_of_nonpos hn'] at hnear
    norm_num at hnear
    linarith
  · intro hn
    have hn' : (0 : ℚ) < n / 4 := by
      have hcast : (0 : ℚ) < n := by exact_mod_cast hn
      linarith
    rw [abs_of_pos hn'] at hnear
    norm_num at hnear
    linarith

/-- Snapping `q` to the price step ends at `n` steps. -/
def SnapsTo (q : ℚ) (n : ℤ) : Prop :=
  ∃ s, contextResult (q / priceStep) = some s ∧ quantizeUnits s = some n

lemma SnapsTo.unique {q : ℚ} {m n : ℤ} (hm : SnapsTo q m) (hn : SnapsTo q n) : m = n := by
  obtain ⟨s, hs, hm⟩ := hm
  obtain ⟨t, ht, hn⟩ := hn
  rw [Option.some.inj (hs.symm.trans ht)] at hm
  exact Option.some.inj (hm.symm.trans hn)

lemma priceToStep_of_context {q s : ℚ} (h : contextResult (q / priceStep) = some s) :
    priceToStep O q = match quantizeUnits s with
      | none => .error (.ofStd .invalidOperation)
      | some n => .ok (O.floatOfDecimal (roundContext (n < 0) (25 * n.natAbs) (-2))) := by
  rw [priceToStep, inContext_ok.mpr h]
  rfl

lemma priceToStep_overflow {q : ℚ} (h : contextResult (q / priceStep) = none) :
    priceToStep O q = .error decimalOverflow := by
  rw [priceToStep, inContext, h]
  rfl

/-! ### Candidates -/

lemma marginRationale_reasoned :
    strip ("Raise price only enough to restore the configured contribution-margin target; " ++
      "Component 2 must estimate demand impact.") ≠ "" := by
  decide +kernel

lemma demandRationale_reasoned :
    strip "Test a small, reversible price decrease against the detected demand decline." ≠ "" := by
  decide +kernel

section Candidate

variable {o : Opportunity} {menuItemId rationale : String} {assumptions : List String} {q : ℚ}
  {n : ℤ}

/-- What is proposed when the price snaps to `n` steps. -/
lemma priceCandidate_of_snaps (hfloat : FloatReading O.floatOfDecimal) (h : SnapsTo q n)
    (hrationale : strip rationale ≠ "") :
    (n ≤ 0 ∧ priceCandidate O o menuItemId q rationale assumptions = .ok []) ∨
      (0 < n ∧ ∃ c x, priceCandidate O o menuItemId q rationale assumptions = .ok [c] ∧
        c.payload.get "new_price" = .float (.finite x) ∧ Snapped O n x) := by
  obtain ⟨s, hs, hn⟩ := h
  obtain ⟨x, hsnapped⟩ := floatOfSteps hfloat (quantizeUnits_lt hn)
  have hstep : priceToStep O q = .ok (.finite x) := by
    rw [priceToStep_of_context hs, hn, ← hsnapped.read]
  unfold priceCandidate
  rw [hstep]
  by_cases hpos : 0 < n
  · right
    obtain ⟨c, hc, hpayload⟩ := CandidateAction.make_total .priceChange
      (.str "menu_item_id", .str menuItemId) [(.str "new_price", .float (.finite x))] false
      assumptions .deterministic o.id_ne_empty hrationale
    refine ⟨hpos, c, x, ?_, by rw [hpayload]; rfl, hsnapped⟩
    dsimp only
    rw [if_neg (not_le.mpr (hsnapped.pos_iff.mpr hpos)), hc]
    rfl
  · left
    exact ⟨not_lt.mp hpos, if_pos (not_lt.mp (fun hx => hpos (hsnapped.pos_iff.mp hx)))⟩

/-- Nothing is proposed when the price cannot be snapped. -/
lemma priceCandidate_of_not_snaps (h : ∀ n, ¬SnapsTo q n) {cs : List CandidateAction}
    (hcs : priceCandidate O o menuItemId q rationale assumptions = .ok cs) : cs = [] := by
  unfold priceCandidate at hcs
  cases hs : contextResult (q / priceStep) with
  | none =>
    rw [priceToStep_overflow hs] at hcs
    cases hcs
  | some s =>
    cases hn : quantizeUnits s with
    | none =>
      have hstep : priceToStep O q = .error (.ofStd .invalidOperation) := by
        rw [priceToStep_of_context hs, hn]
      rw [hstep] at hcs
      exact (Except.ok.inj hcs).symm
    | some n => exact absurd ⟨s, hs, hn⟩ (h n)

/-- What holds of every float that the price can end at holds of every proposed price. -/
lemma priceCandidate_forall (hfloat : FloatReading O.floatOfDecimal) {Q : ℚ → Prop}
    (hrationale : strip rationale ≠ "")
    (hQ : ∀ n x, SnapsTo q n → 0 < n → Snapped O n x → Q x.toRat) {cs : List CandidateAction}
    (hcs : priceCandidate O o menuItemId q rationale assumptions = .ok cs) :
    ∀ c ∈ cs, ∃ x, c.payload.get "new_price" = .float (.finite x) ∧ Q x.toRat := by
  by_cases hsnaps : ∃ n, SnapsTo q n
  · obtain ⟨n, hn⟩ := hsnaps
    rcases priceCandidate_of_snaps hfloat hn hrationale with ⟨-, hnil⟩ | ⟨hpos, c, x, hc, hx, hsnapped⟩
    · rw [Except.ok.inj (hcs.symm.trans hnil)]
      exact List.forall_mem_nil _
    · rw [Except.ok.inj (hcs.symm.trans hc)]
      intro d hd
      rw [List.mem_singleton.mp hd]
      exact ⟨x, hx, hQ n x hn hpos hsnapped⟩
  · rw [priceCandidate_of_not_snaps (not_exists.mp hsnaps) hcs]
    exact List.forall_mem_nil _

end Candidate

end OpsCopilot
