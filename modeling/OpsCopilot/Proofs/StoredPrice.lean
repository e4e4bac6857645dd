import OpsCopilot.Proofs.AutonomyGate

/-!
# The price that is stored

The gates judge the number that was submitted; the column keeps it rounded to cents. When the
stored price stays within the limit of the gates.
-/

namespace OpsCopilot

open Python Sql Fallible Interleaving

/-! ### Rounding -/

/-- A rounded price is within a tenth of the old one exactly when the number itself has not come
half a cent past the last whole cent that is. -/
lemma rounded_cap {old : ℤ} {q : ℚ} (hq : 0 ≤ q) :
    |(roundHalfAway (q * 10 ^ 2) : ℚ) / 10 ^ 2 - old / 10 ^ 2| ≤ 1 / 10 * (old / 10 ^ 2 : ℚ) ↔
      old - ⌊(old : ℚ) / 10⌋ - 1 / 2 ≤ 100 * q ∧ 100 * q < old + ⌊(old : ℚ) / 10⌋ + 1 / 2 := by
  have hround : roundHalfAway (q * 10 ^ 2) = ⌊100 * q + 1 / 2⌋ := by
    rw [roundHalfAway, if_pos (mul_nonneg hq (by norm_num))]
    congr 1
    ring
  rw [hround]
  generalize hn : ⌊100 * q + 1 / 2⌋ = n
  have habs : |(n : ℚ) / 10 ^ 2 - old / 10 ^ 2| ≤ 1 / 10 * (old / 10 ^ 2 : ℚ) ↔
      |n - old| ≤ ⌊(old : ℚ) / 10⌋ := by
    rw [Int.le_floor, div_sub_div_same, abs_div, abs_of_pos (by norm_num : (0 : ℚ) < 10 ^ 2)]
    push_cast
    constructor
    · intro h
      rw [div_le_iff₀ (by norm_num)] at h
      linarith
    · intro h
      rw [div_le_iff₀ (by norm_num)]
      linarith
  have hlow : old ≤ n + ⌊(old : ℚ) / 10⌋ ↔ (old : ℚ) - ⌊(old : ℚ) / 10⌋ ≤ 100 * q + 1 / 2 := by
    rw [← hn, ← sub_le_iff_le_add, Int.le_floor]
    push_cast
    rfl
  have hhigh : n ≤ ⌊(old : ℚ) / 10⌋ + old ↔ 100 * q + 1 / 2 < ⌊(old : ℚ) / 10⌋ + old + 1 := by
    rw [← hn, ← Int.lt_add_one_iff, Int.floor_lt]
    push_cast
    rfl
  rw [habs, abs_le, neg_le_sub_iff_le_add, sub_le_iff_le_add, hlow, hhigh]
  constructor
  · rintro ⟨h₁, h₂⟩
    constructor <;> linarith
  · rintro ⟨h₁, h₂⟩
    constructor <;> linarith

/-! ### Runs -/

/-- The event of the call is appended; what follows only reports it. -/
def Stage.done : Stage → Bool
  | .appended _ _ => true
  | .leaving (.ok answer) | .finished (.ok answer) => reportsExecution answer
  | _ => false

@[simp] lemma Process.conclude_error_done (p : Process) (e : PyException) :
    (p.conclude (.error e)).stage.done = false := by
  unfold Process.conclude
  split_ifs <;> rfl

@[simp] lemma Process.conclude_ok_done (p : Process) (answer : Dict) :
    (p.conclude (.ok answer)).stage.done = reportsExecution answer := by
  unfold Process.conclude
  split_ifs <;> rfl

lemma Stage.applied_of_done {stage : Stage} (h : stage.done = true) : stage.applied = true := by
  unfold Stage.done at h
  split at h
  · rfl
  · exact h
  · exact h
  · exact absurd h (by simp)

/-- Before its event a call is not done; the step of the event makes it so. -/
lemma ToolMove.done_cases {O : Outside} {call : ToolCall} {x : ToolAction} {s s' : ToolStore}
    {p p' : Process} (h : ToolMove O call x s p s' p')
    (haudit : ∀ entry answer, p.stage = .auditing entry answer → reportsExecution answer = false)
    (hp : p.stage.done = false) (hp' : p'.stage.done = true) :
    ∃ w evaluation eventType event draw,
      AppendStep O s p s' p' w evaluation eventType event draw := by
  cases h with
  | append happend =>
    obtain ⟨member, hmember, -, happended⟩ := appendEvent_spec happend
    obtain rfl := Except.ok.inj hmember
    exact ⟨_, _, _, _, _, rfl, happended, rfl, rfl⟩
  | raise _ _ => exact absurd hp' (by simp)
  | audit _ => exact absurd hp' (by simp [haudit _ _ rfl])
  | logPolicy _ _ | logReviewer _ _ | releaseWork _ => exact absurd hp (by simp [Stage.done])
  | @leave _ _ result =>
    cases result with
    | ok answer => exact absurd (hp.symm.trans hp') (by simp)
    | error e => exact absurd hp' (by simp [Stage.done])
  | persist _ _ =>
    unfold gateDecision at hp'
    split_ifs at hp' <;> exact absurd hp' (by simp [Stage.done])
  | getPending _ _ _ | resolve _ _ =>
    split_ifs at hp' <;> exact absurd hp' (by simp [Stage.done])
  | crash _ | unsupported _ _ | simulate _ _ | persistAlone _ _ | acquire _ _ | timeout _
  | block _ _ | review _ _ | proceed _ _ | request _ _ | requestAlone _ _ | resolveAlone _ _
  | readPending _ _ _ | recheck _ _ _ _ | stale _ _ _ | getApproved _ _ _ _ | readApproved _ _ _
  | acquireApproved _ | claimAlone _ _ | evaluateAlone _ | claim _ | observe _ | complete _ =>
    exact absurd hp' (by simp [Stage.done, staleAnswer])

section Runs

variable {ι : Type*} [DecidableEq ι] {O : Outside} {call : ι → ToolCall}
  {c d : Config ι ToolStore Process} {i : ι} {x : ToolAction}

/-- A step of another call that leaves the tables alone. -/
def OthersQuiet (O : Outside) (call : ι → ToolCall) (i : ι) (c : Config ι ToolStore Process) (j : ι)
    (x : ToolAction) : Prop :=
  j ≠ i → ∀ d, (toolCalls O call).fire c j x = some d → Untouched c.shared.db d.shared.db

/-- Until its event is appended, a call of `execute_tool_call` among quiet ones has changed no
table. -/
lemma tables_before {db : Db} {schedule : List (ι × ToolAction)} {t : String} {a : ActionType}
    {payload : Dict} (hcall : call i = .execute t a payload)
    (hquiet : (toolCalls O call).Along (OthersQuiet O call i) db.start schedule)
    (hc : (toolCalls O call).run db.start schedule = some c)
    (happlied : (c.proc i).stage.applied = false) : c.shared.db.tables = db.tables := by
  have hstep : ∀ c j x d, ((c.proc i).stage.applied = true ∨ c.shared.db.tables = db.tables) →
      OthersQuiet O call i c j x → (toolCalls O call).fire c j x = some d →
      (d.proc i).stage.applied = true ∨ d.shared.db.tables = db.tables := by
    intro c j x d hc hok hd
    by_cases hji : j = i
    · subst hji
      rcases hc with happlied | htables
      · exact .inl ((toolCalls_move hd).applied_lasts hcall happlied)
      · rcases (toolCalls_move hd).append_cases with huntouched | ⟨_, _, _, _, _, happend⟩
        · exact .inr (huntouched.tables_eq.trans htables)
        · rw [happend.after]
          exact .inl rfl
    · rw [(toolCalls O call).proc_of_fire hd (Ne.symm hji), (hok hji d hd).tables_eq]
      exact hc
  rcases (toolCalls O call).run_invariant hstep (.inr rfl) hquiet hc with h | h
  · exact absurd h (by simp [happlied])
  · exact h

/-- From then on it changes none either. -/
lemma tables_after {later : List (ι × ToolAction)} {t : String} {a : ActionType} {payload : Dict}
    (hcall : call i = .execute t a payload)
    (hquiet : (toolCalls O call).Along (OthersQuiet O call i) c later)
    (hd : (toolCalls O call).run c later = some d)
    (happlied : (c.proc i).stage.applied = true) : d.shared.db.tables = c.shared.db.tables := by
  have hstep : ∀ e j x f, ((e.proc i).stage.applied = true ∧
        e.shared.db.tables = c.shared.db.tables) →
      OthersQuiet O call i e j x → (toolCalls O call).fire e j x = some f →
      (f.proc i).stage.applied = true ∧ f.shared.db.tables = c.shared.db.tables := by
    rintro e j x f ⟨he, htables⟩ hok hf
    by_cases hji : j = i
    · subst hji
      refine ⟨(toolCalls_move hf).applied_lasts hcall he, ?_⟩
      rcases (toolCalls_move hf).append_cases with huntouched | ⟨_, _, _, _, _, happend⟩
      · exact huntouched.tables_eq.trans htables
      · rw [happend.before] at he
        exact absurd he (by simp [Stage.applied])
    · rw [(toolCalls O call).proc_of_fire hf (Ne.symm hji), (hok hji f hf).tables_eq]
      exact ⟨he, htables⟩
  exact ((toolCalls O call).run_invariant hstep ⟨happlied, rfl⟩ hquiet hd).2

/-- The prices before and after an autonomous price change that nobody interferes with. -/
lemma prices_around {db : Db} {schedule : List (ι × ToolAction)} {t : String}
    {payload answer : Dict} (hids : db.DecisionIds)
    (hcall : call i = .execute t .priceChange payload)
    (hquiet : (toolCalls O call).Along (OthersQuiet O call i) db.start schedule)
    (hc : (toolCalls O call).run db.start schedule = some c)
    (hdone : (c.proc i).stage = .finished (.ok answer)) (hreports : reportsExecution answer = true) :
    ∃ id old new x, payload.get "menu_item_id" = .str id ∧ db.tables.price? t id = some old ∧
      toExactDecimal (payload.get "new_price") = some x ∧ 0 ≤ x ∧
      c.shared.db.tables.price? t id = some new ∧
      (∃ n : ℤ, old = n / 10 ^ 2) ∧ new = roundHalfAway (x * 10 ^ 2) / 10 ^ 2 := by
  obtain ⟨before, j, x, after, e, f, rfl, hbefore, hfire, hafter, he, hf⟩ :=
    (toolCalls O call).exists_step (G := fun c => (c.proc i).stage.done = true) hc
      (by simp [Db.start, Process.idle, Stage.done]) (by rw [hdone]; exact hreports)
  by_cases hji : j = i
  · subst hji
    have hanswers := answersKept_run hids hbefore
    have hkept := baselinesKept_run hbefore
    have hlocks := hkept.locks
    obtain ⟨w, evaluation, eventType, event, draw, happend⟩ :=
      (toolCalls_move hfire).done_cases (hanswers.audit j) (by simpa using he) hf
    -- The work is the call's own: it is a price change.
    have hwork : (e.proc j).stage.applying? = some w := by rw [happend.before]; rfl
    rcases hlocks.authority j w (Stage.work?_of_applying? hwork) with
      ⟨⟨v, reason, hauthority⟩, hown⟩ | ⟨r, -, hown⟩
    · obtain ⟨rfl, haction, rfl⟩ := ToolCall.execute.inj (hcall.symm.trans hown)
      obtain ⟨rfl, hevent⟩ := hlocks.event j w evaluation eventType event happend.before
      have happly := happend.appended.tables
      rw [← haction] at happly
      obtain ⟨id, newPrice, row, price, hid, hdecimal, hnegative, hrow, hstored, htables⟩ :=
        applyMenuPriceChange_spec happly
      dsimp only at hid hdecimal hrow htables
      rw [hevent haction.symm, priceEvent_menuItemId] at hid
      rw [hevent haction.symm, priceEvent_newPrice] at hdecimal
      -- The gates have read the new price as a number.
      obtain ⟨confidence, hgates⟩ := (hkept.baseline j w v reason hwork hauthority haction.symm).gates
      obtain ⟨-, -, _, q, -, -, hexact, -⟩ := hgates.priceChange
      have hq : newPrice.toRat? = some q := by
        rw [toExactDecimal, hdecimal] at hexact
        exact hexact
      obtain ⟨y, hstore, rfl⟩ := storeNumeric_finite hq hstored
      have hcoeff := Numeric.store?_coeff hstore
      obtain ⟨n, hn⟩ : ∃ n : ℤ, row.currentPrice.toRat = n / 10 ^ 2 := by
        cases row.currentPrice with
        | number x => exact ⟨x.coeff, rfl⟩
        | nan => exact ⟨-100, by norm_num [Column.toRat]⟩
      have htables₀ := tables_before hcall (Program.along_left _ hquiet) hbefore
        (by rw [happend.before]; rfl)
      have hquiet' := Program.along_append _ hquiet hbefore
      have htables₁ := tables_after hcall (hquiet'.2 f hfire) hafter (Stage.applied_of_done hf)
      refine ⟨id, row.currentPrice.toRat, y.toRat, q, hid, ?_, hexact,
        nonneg_of_isNegative hnegative hq, ?_, ⟨n, hn⟩, ?_⟩
      · rw [← htables₀, Tables.price?, hrow]
        rfl
      · rw [htables₁, htables, Tables.price?, Tables.menuItem?_changeMenuItem, if_pos ⟨rfl, rfl⟩,
          hrow]
        · rfl
        · exact fun r => ⟨rfl, rfl⟩
      · rw [Numeric.toRat, hcoeff]
    · exact absurd hown (by simp [hcall, ToolCall.ExecutesApproved])
  · simp only [(toolCalls O call).proc_of_fire hfire (Ne.symm hji)] at hf
    exact absurd hf he

/-- The stored price stays within ten per cent exactly when the submitted one has not come half a
cent past the last whole cent that does. -/
theorem stored_price_cap {db : Db} {schedule : List (ι × ToolAction)} {t : String}
    {payload answer : Dict} (hids : db.DecisionIds)
    (hcall : call i = .execute t .priceChange payload)
    (hquiet : (toolCalls O call).Along (OthersQuiet O call i) db.start schedule)
    (hc : (toolCalls O call).run db.start schedule = some c)
    (hdone : (c.proc i).stage = .finished (.ok answer)) (hreports : reportsExecution answer = true) :
    ∃ id old new x, payload.get "menu_item_id" = .str id ∧ db.tables.price? t id = some old ∧
      toExactDecimal (payload.get "new_price") = some x ∧
      c.shared.db.tables.price? t id = some new ∧
      (|new - old| ≤ 1 / 10 * old ↔
        100 * old - ⌊10 * old⌋ - 1 / 2 ≤ 100 * x ∧ 100 * x < 100 * old + ⌊10 * old⌋ + 1 / 2) := by
  obtain ⟨id, old, new, x, hid, hold, hx, hnonneg, hnew, ⟨n, rfl⟩, rfl⟩ :=
    prices_around hids hcall hquiet hc hdone hreports
  refine ⟨id, _, _, x, hid, hold, hx, hnew, ?_⟩
  have hcents : (100 : ℚ) * (n / 10 ^ 2) = n := by ring
  have htenth : (10 : ℚ) * (n / 10 ^ 2) = n / 10 := by ring
  rw [hcents, htenth]
  exact rounded_cap hnonneg

end Runs

/-! ### Concrete runs -/

/-- A call by itself. -/
def soloRaise (payload : Dict) : Unit → ToolCall := fun _ => .execute "t" .priceChange payload

def soloSchedule : List (Unit × ToolAction) :=
  [((), .simulate), ((), .persist "d"), ((), .acquire), ((), .judge), ((), .claim),
    ((), .observe calmDraws 7), ((), .complete), ((), .append ⟨8, "e", "r"⟩), ((), .log 9),
    ((), .release)]

lemma solo_quiet {payload : Dict} {c : Config Unit ToolStore Process} :
    (toolCalls (.prescribed []) (soloRaise payload)).Along
      (OthersQuiet (.prescribed []) (soloRaise payload) ()) c soloSchedule :=
  Program.along_mono _ (fun _ _ _ _ hne => absurd rfl hne) (Program.along_true _ c soloSchedule)

theorem soup_stored_price_cap : ∃ c answer,
    (toolCalls (.prescribed []) (soloRaise (soupPrice 1050))).run bistro.start soloSchedule =
      some c ∧
    (c.proc ()).stage = .finished (.ok answer) ∧
    ∃ id old new x, (soupPrice 1050).get "menu_item_id" = .str id ∧
      bistro.tables.price? "t" id = some old ∧
      toExactDecimal ((soupPrice 1050).get "new_price") = some x ∧
      c.shared.db.tables.price? "t" id = some new ∧
      (|new - old| ≤ 1 / 10 * old ↔
        100 * old - ⌊10 * old⌋ - 1 / 2 ≤ 100 * x ∧ 100 * x < 100 * old + ⌊10 * old⌋ + 1 / 2) := by
  have hrun : ((toolCalls (.prescribed []) (soloRaise (soupPrice 1050))).run bistro.start
      soloSchedule).any (fun c => (c.proc ()).stage.hasExecuted) = true := by decide +kernel
  obtain ⟨c, hc, hexecuted⟩ := (Option.any_eq_true _ _).mp hrun
  obtain ⟨answer, hdone, hreports⟩ := Stage.hasExecuted_eq hexecuted
  have hids : bistro.DecisionIds := List.nodup_nil
  have hcall : soloRaise (soupPrice 1050) () = .execute "t" .priceChange (soupPrice 1050) := rfl
  exact ⟨c, answer, hc, hdone, stored_price_cap hids hcall solo_quiet hc hdone hreports⟩

/-- The bistro with its dish at 4.99. -/
def cheapBistro : Db :=
  { bistro with
    tables := { bistro.tables with menuItems := [⟨"soup", "t", "Soup", .number ⟨499, by decide⟩, true⟩] } }

/-- A price with a fraction of a cent: 5.489. -/
def finePrice : Dict :=
  [(.str "menu_item_id", .str "soup"),
    (.str "new_price", .float (.finite (.ofDigits false 5489 (-3))))]

/-- A raise by just under ten per cent is stored as one of more. -/
theorem fine_price_exceeds_cap : ∃ c answer new,
    (toolCalls (.prescribed []) (soloRaise finePrice)).run cheapBistro.start soloSchedule = some c ∧
    (c.proc ()).stage = .finished (.ok answer) ∧ reportsExecution answer = true ∧
    cheapBistro.tables.price? "t" "soup" = some (499 / 100) ∧
    c.shared.db.tables.price? "t" "soup" = some new ∧
    ¬|new - 499 / 100| ≤ 1 / 10 * (499 / 100) := by
  have hrun : ((toolCalls (.prescribed []) (soloRaise finePrice)).run cheapBistro.start
      soloSchedule).any (fun c => (c.proc ()).stage.hasExecuted &&
        c.shared.db.tables.price? "t" "soup" = some (549 / 100)) = true := by decide +kernel
  obtain ⟨c, hc, hend⟩ := (Option.any_eq_true _ _).mp hrun
  rw [Bool.and_eq_true] at hend
  obtain ⟨answer, hdone, hreports⟩ := Stage.hasExecuted_eq hend.1
  refine ⟨c, answer, 549 / 100, hc, hdone, hreports, by decide +kernel, of_decide_eq_true hend.2, ?_⟩
  norm_num [abs_of_pos]

end OpsCopilot
