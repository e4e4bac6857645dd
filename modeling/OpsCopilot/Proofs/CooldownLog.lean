import OpsCopilot.Model.Cycle

/-!
# The page of the log that the cooldown reads

`_in_cooldown` looks for a row among the newest five hundred of the tenant. It finds one exactly
when one is there.
-/

namespace OpsCopilot

open Python Fallible

/-- A row that keeps an action from being repeated: the action type and the target are the same,
and the row is about an action that was executed or waits for a reviewer. -/
structure Cools (O : Outside) (since : Timestamp) (c : CandidateAction) (e : ToolExecutionLog) :
    Prop where
  recent : since ≤ e.createdAt
  sameType : e.actionType = c.actionType
  sameTarget : loggedTarget O e.payload = .ok (target O c.payload)
  acted : e.executed = true ∨ e.criticApproved = some true ∧ e.executed = false

section Cooldown

variable {O : Outside} {since : Timestamp} {c : CandidateAction}

lemma loggedTarget_dict {v : Value} (h : ∃ d, v = .dict d) : ∃ found, loggedTarget O v = .ok found := by
  obtain ⟨d, rfl⟩ := h
  exact ⟨target O d, rfl⟩

/-- The loop over rows from the newest to the oldest: it may stop at the first one that is too
old. -/
lemma cooldownLoop_eq_true {rows : List ToolExecutionLog}
    (hsorted : rows.Pairwise (fun a b => b.createdAt ≤ a.createdAt))
    (hrows : ∀ e ∈ rows, ∃ d, e.payload = .dict d) :
    cooldownLoop O since c.actionType (target O c.payload) rows = .ok true ↔
      ∃ e ∈ rows, Cools O since c e := by
  induction rows with
  | nil => simp [cooldownLoop]
  | cons e rows ih =>
    obtain ⟨hnewest, hrest⟩ := List.pairwise_cons.mp hsorted
    have ih := ih hrest (fun e' he' => hrows e' (List.mem_cons_of_mem e he'))
    have hskip : ¬Cools O since c e →
        ((∃ e' ∈ e :: rows, Cools O since c e') ↔ ∃ e' ∈ rows, Cools O since c e') := by
      intro he
      rw [List.exists_mem_cons_iff]
      exact or_iff_right he
    unfold cooldownLoop
    by_cases hold : e.createdAt < since
    · rw [if_pos hold]
      refine iff_of_false (by simp) ?_
      rintro ⟨e', he', hcools⟩
      rcases List.mem_cons.mp he' with rfl | he'
      · exact absurd hcools.recent (not_le.mpr hold)
      · exact absurd hcools.recent (not_le.mpr ((hnewest e' he').trans_lt hold))
    · rw [if_neg hold]
      by_cases htype : e.actionType = c.actionType
      · rw [if_neg (not_not.mpr htype)]
        obtain ⟨found, hfound⟩ := loggedTarget_dict (O := O) (hrows e List.mem_cons_self)
        rw [hfound]
        dsimp only
        by_cases htarget : found = target O c.payload
        · rw [if_neg (not_not.mpr htarget)]
          rw [htarget] at hfound
          by_cases hacted : e.executed = true ∨ e.criticApproved = some true ∧ ¬e.executed = true
          · rw [if_pos hacted]
            refine iff_of_true rfl ⟨e, List.mem_cons_self, not_lt.mp hold, htype, hfound, ?_⟩
            exact hacted.imp_right (And.imp_right Bool.eq_false_iff.mpr)
          · rw [if_neg hacted, ih]
            refine (hskip fun h => hacted ?_).symm
            exact h.acted.imp_right (And.imp_right Bool.eq_false_iff.mp)
        · rw [if_pos htarget, ih]
          refine (hskip fun h => htarget ?_).symm
          exact Except.ok.inj (hfound.symm.trans h.sameTarget)
      · rw [if_pos htype, ih]
        exact (hskip fun h => htype h.sameType).symm

variable {db : Db} {t : String}

lemma actionLog_sorted (limit : ℕ) :
    (db.actionLog t limit).Pairwise (fun a b => b.createdAt ≤ a.createdAt) := by
  have : Std.Total (fun a b : ToolExecutionLog => b.createdAt ≤ a.createdAt) :=
    ⟨fun a b => le_total b.createdAt a.createdAt⟩
  have : IsTrans ToolExecutionLog (fun a b => b.createdAt ≤ a.createdAt) :=
    ⟨fun a b c hab hbc => hbc.trans hab⟩
  exact (List.pairwise_insertionSort _ _).sublist (List.take_sublist _ _)

/-- A page of the log holds rows of the tenant. -/
lemma mem_actionLog {limit : ℕ} {e : ToolExecutionLog} (he : e ∈ db.actionLog t limit) :
    e ∈ db.toolExecutionLog ∧ e.tenantId = t := by
  have hmem := List.mem_of_mem_take he
  rw [List.mem_insertionSort, List.mem_filter] at hmem
  exact ⟨hmem.1, of_decide_eq_true hmem.2⟩

/-- The cooldown holds when one of the newest five hundred rows says so. -/
lemma inCooldown_eq_true {cooldown : ℤ} {now : Timestamp}
    (hrows : ∀ e ∈ db.toolExecutionLog, e.tenantId = t → ∃ d, e.payload = .dict d) :
    inCooldown O db t c cooldown now = .ok true ↔
      0 < cooldown ∧ ∃ e ∈ db.actionLog t 500, Cools O (now - cooldown) c e := by
  have hpage : ∀ e ∈ db.actionLog t 500, ∃ d, e.payload = .dict d :=
    fun e he => hrows e (mem_actionLog he).1 (mem_actionLog he).2
  unfold inCooldown
  by_cases hcooldown : cooldown ≤ 0
  · rw [if_pos hcooldown]
    exact iff_of_false (by simp) (fun h => absurd h.1 (not_lt.mpr hcooldown))
  · rw [if_neg hcooldown, cooldownLoop_eq_true (actionLog_sorted 500) hpage]
    exact (and_iff_right (not_le.mp hcooldown)).symm

/-- The cooldown answers for the whole log if and only if, where the log has a row that keeps the
action back, the newest five hundred rows have one. -/
theorem cooldown_reads_log (O : Outside) (db : Db) (t : String) (c : CandidateAction)
    (cooldown : ℤ) (now : Timestamp)
    (hrows : ∀ e ∈ db.toolExecutionLog, e.tenantId = t → ∃ d, e.payload = .dict d) :
    (inCooldown O db t c cooldown now = .ok true ↔ 0 < cooldown ∧
      ∃ e ∈ db.toolExecutionLog, e.tenantId = t ∧ Cools O (now - cooldown) c e) ↔
    (0 < cooldown → (∃ e ∈ db.toolExecutionLog, e.tenantId = t ∧ Cools O (now - cooldown) c e) →
      ∃ e ∈ db.actionLog t 500, Cools O (now - cooldown) c e) := by
  rw [inCooldown_eq_true hrows]
  constructor
  · intro h hcooldown hexists
    exact (h.mpr ⟨hcooldown, hexists⟩).2
  · intro h
    constructor
    · rintro ⟨hcooldown, e, he, hcools⟩
      exact ⟨hcooldown, e, (mem_actionLog he).1, (mem_actionLog he).2, hcools⟩
    · rintro ⟨hcooldown, hexists⟩
      exact ⟨hcooldown, h hcooldown hexists⟩

end Cooldown

/-! ### A busy log -/

def soupRaised : CandidateAction :=
  ⟨"margin:soup", .priceChange, [(.str "menu_item_id", .str "soup"), (.str "new_price", .int 12)],
    "Raise the price.", false, [], .deterministic, by decide, by simp, by decide⟩

/-- A row about an attempt at the price of another dish. -/
def heldRow : ToolExecutionLog :=
  ⟨"t", none, "pricing", .priceChange, false, none, none, false,
    .dict [(.str "menu_item_id", .str "stew"), (.str "new_price", .int 9)], 2⟩

/-- The execution of the price change. -/
def raisedRow : ToolExecutionLog :=
  ⟨"t", some "d", "pricing", .priceChange, true, some true, none, true,
    .dict soupRaised.payload, 1⟩

def busyDb (held : ℕ) : Db where
  tenants := ["t"]
  tables := Tables.empty
  events := []
  decisions := []
  approvalRequests := []
  toolExecutionLog := raisedRow :: List.replicate held heldRow

lemma busyDb_rows (held : ℕ) : ∀ e ∈ (busyDb held).toolExecutionLog, e.tenantId = "t" →
    ∃ d, e.payload = .dict d := by
  intro e he _
  rcases List.mem_cons.mp he with rfl | he
  · exact ⟨_, rfl⟩
  · rw [List.eq_of_mem_replicate he]
    exact ⟨_, rfl⟩

lemma raisedRow_cools (held : ℕ) : ∃ e ∈ (busyDb held).toolExecutionLog, e.tenantId = "t" ∧
    Cools (.prescribed []) (3 - 10) soupRaised e :=
  ⟨raisedRow, List.mem_cons_self, rfl, by decide, rfl, rfl, .inl rfl⟩

/-- Five hundred attempts at another price later, the same price change may be repeated. -/
theorem raise_forgotten :
    inCooldown (.prescribed []) (busyDb 500) "t" soupRaised 10 3 = .ok false ∧
      ∃ e ∈ (busyDb 500).toolExecutionLog, e.tenantId = "t" ∧
        Cools (.prescribed []) (3 - 10) soupRaised e := by
  refine ⟨?_, raisedRow_cools 500⟩
  decide +kernel

theorem raise_remembered : inCooldown (.prescribed []) (busyDb 3) "t" soupRaised 10 3 = .ok true := by
  refine ((cooldown_reads_log _ _ _ _ _ _ (busyDb_rows 3)).mpr ?_).mpr
    ⟨by decide, raisedRow_cools 3⟩
  intro _ _
  have hpage : (busyDb 3).actionLog "t" 500 = [heldRow, heldRow, heldRow, raisedRow] := rfl
  exact ⟨raisedRow, by simp [hpage], by decide, rfl, rfl, .inl rfl⟩

end OpsCopilot
