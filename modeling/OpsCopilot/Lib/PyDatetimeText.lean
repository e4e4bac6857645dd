import OpsCopilot.Lib.PyDatetime
import OpsCopilot.Lib.PyNumberText

/-!
# The text of an instant determines it

Dates of the calendar, padded numbers and the parts of `isoformat()` between their separators are
taken apart again.
-/

namespace Python

/-! ### Separators -/

/-- The part in front of the first separator is determined by the whole. -/
lemma append_sep_inj {sep : Char} {as bs r s : List Char} (ha : sep ∉ as) (hb : sep ∉ bs)
    (h : as ++ sep :: r = bs ++ sep :: s) : as = bs ∧ r = s := by
  induction as generalizing bs with
  | nil =>
    cases bs with
    | nil => exact ⟨rfl, (List.cons.inj h).2⟩
    | cons b bs => exact absurd (List.cons.inj h).1 (fun hsep => hb (hsep ▸ List.mem_cons_self))
  | cons a as ih =>
    cases bs with
    | nil => exact absurd (List.cons.inj h).1 (fun hsep => ha (hsep ▸ List.mem_cons_self))
    | cons b bs =>
      obtain ⟨hhead, htail⟩ := List.cons.inj h
      obtain ⟨hparts, hrest⟩ := ih (fun hmem => ha (List.mem_cons_of_mem a hmem))
        (fun hmem => hb (List.mem_cons_of_mem b hmem)) htail
      exact ⟨by rw [hhead, hparts], hrest⟩

/-! ### Padded numbers -/

lemma isDigit_padded {width : ℕ} {n : ℤ} {c : Char} (hc : c ∈ padded width n) :
    c.isDigit = true := by
  unfold padded at hc
  rcases List.mem_append.mp hc with hc | hc
  · rw [List.eq_of_mem_replicate hc]
    decide
  · exact isDigit_toDigits hc

lemma not_mem_padded {width : ℕ} {n : ℤ} {c : Char} (hc : c.isDigit = false) :
    c ∉ padded width n :=
  fun hmem => absurd (isDigit_padded hmem) (by rw [hc]; exact Bool.false_ne_true)

lemma ofDigitChars_replicate_zero (k : ℕ) (ds : List Char) :
    Nat.ofDigitChars 10 (List.replicate k '0' ++ ds) 0 = Nat.ofDigitChars 10 ds 0 := by
  induction k with
  | zero => rfl
  | succ k ih => rw [List.replicate_succ, List.cons_append, ofDigitChars_zero_cons, ih]

/-- Padded numbers that are not negative are told apart. -/
lemma padded_inj {width : ℕ} {m n : ℤ} (hm : 0 ≤ m) (hn : 0 ≤ n)
    (h : padded width m = padded width n) : m = n := by
  have hvalue := congrArg (fun ds => Nat.ofDigitChars 10 ds 0) h
  simp only [padded, ofDigitChars_replicate_zero, Nat.ofDigitChars_ten_toDigits] at hvalue
  omega

lemma length_padded {width : ℕ} {n : ℤ} (hn : n.natAbs < 10 ^ width) (hw : 0 < width) :
    (padded width n).length = width := by
  have hlen := (Nat.length_toDigits_le_iff (by norm_num : 1 < 10) hw).mpr hn
  rw [padded, List.length_append, List.length_replicate]
  omega

/-! ### Dates -/

lemma CivilDate.eq_of_parts {a b : CivilDate} (hyear : a.year = b.year) (hmonth : a.month = b.month)
    (hday : a.day = b.day) : a = b := by
  cases a
  cases b
  rw [CivilDate.mk.injEq]
  exact ⟨hyear, hmonth, hday⟩

/-- The year within a cycle of 400 years, which are 146097 days. -/
lemma year_of_cycle {d y : ℤ} (hd : 0 ≤ d) (hlt : d < 146097)
    (hy : y = (d - d / 1460 + d / 36524 - d / 146096) / 365) :
    0 ≤ y ∧ y ≤ 399 ∧ 365 * y + y / 4 - y / 100 ≤ d ∧ d ≤ 365 * y + y / 4 - y / 100 + 365 := by
  have hlow : 0 ≤ y := by omega
  have hhigh : y ≤ 399 := by omega
  -- The leap days before `d` are those before its year, up to one.
  obtain ⟨e, he⟩ : ∃ e, e = d / 1460 := ⟨_, rfl⟩
  obtain ⟨f, hf⟩ : ∃ f, f = d / 36524 := ⟨_, rfl⟩
  obtain ⟨g, hg⟩ : ∃ g, g = d / 146096 := ⟨_, rfl⟩
  rw [← he, ← hf, ← hg] at hy
  have hg01 : g = 0 ∨ g = 1 := by omega
  have hef : f ≤ e ∧ e ≤ 100 := by omega
  have hfour : y / 4 ≤ e ∧ e ≤ y / 4 + 1 := by omega
  have hcentury : y / 100 ≤ f ∧ f ≤ y / 100 + 1 := by omega
  refine ⟨hlow, hhigh, ?_, ?_⟩
  · omega
  · omega

/-- The parts of a date, from the day of the 400-year cycle. -/
lemma civil_parts (z : ℤ) : ∃ era yearOfEra dayOfYear marchMonth : ℤ,
    0 ≤ yearOfEra ∧ yearOfEra ≤ 399 ∧ 0 ≤ dayOfYear ∧ dayOfYear ≤ 365 ∧
    marchMonth = (5 * dayOfYear + 2) / 153 ∧
    z + 719468 = era * 146097 +
      (365 * yearOfEra + yearOfEra / 4 - yearOfEra / 100 + dayOfYear) ∧
    civilFromDays z =
      { year := yearOfEra + era * 400 +
          (if (if marchMonth < 10 then marchMonth + 3 else marchMonth - 9) ≤ 2 then 1 else 0)
        month := if marchMonth < 10 then marchMonth + 3 else marchMonth - 9
        day := dayOfYear - (153 * marchMonth + 2) / 5 + 1 } := by
  obtain ⟨d, hd⟩ : ∃ d, d = (z + 719468) % 146097 := ⟨_, rfl⟩
  obtain ⟨y, hy⟩ : ∃ y, y = (d - d / 1460 + d / 36524 - d / 146096) / 365 := ⟨_, rfl⟩
  obtain ⟨hlow, hhigh, hfirst, hlast⟩ := year_of_cycle (by omega) (by omega) hy
  refine ⟨(z + 719468) / 146097, y, d - (365 * y + y / 4 - y / 100), _, hlow, hhigh, ?_, ?_, rfl,
    ?_, ?_⟩
  · omega
  · omega
  · omega
  · rw [hy, hd]
    rfl

theorem civilFromDays_injective : Function.Injective civilFromDays := by
  intro z w h
  obtain ⟨era, y, doy, m, hy, hy', hdoy, hdoy', hm, hz, hdate⟩ := civil_parts z
  obtain ⟨era', y₂, doy₂, m₂, hy₂, hy₂', hdoy₂, hdoy₂', hm₂, hw, hdate₂⟩ := civil_parts w
  rw [hdate, hdate₂, CivilDate.mk.injEq] at h
  obtain ⟨hyear, hmonth, hday⟩ := h
  have hmarch : m = m₂ := by
    split_ifs at hmonth <;> omega
  rw [← hmarch] at hyear hday
  have hyears : y = y₂ ∧ era = era' := by
    split_ifs at hyear <;> omega
  obtain ⟨rfl, rfl⟩ := hyears
  omega

/-- Months and days are positive; years are not negative from the first of March of the year 0
on. -/
lemma civilFromDays_nonneg {z : ℤ} (hz : -719468 ≤ z) : 0 ≤ (civilFromDays z).year ∧
    0 ≤ (civilFromDays z).month ∧ 0 ≤ (civilFromDays z).day := by
  obtain ⟨era, y, doy, m, hy, hy', hdoy, hdoy', hm, hera, hdate⟩ := civil_parts z
  rw [hdate]
  dsimp only
  refine ⟨?_, ?_, ?_⟩
  · split_ifs <;> omega
  · split_ifs <;> omega
  · omega

/-! ### Instants -/

/-- The instants that a `datetime` can hold, from the year 1 to the year 9999. -/
def IsDatetime (micros : ℤ) : Prop := -62135596800000000 ≤ micros ∧ micros < 253402300800000000

/-- The fraction of a second, and the offset. -/
def isoTail (fraction : ℤ) : List Char :=
  (if fraction = 0 then [] else '.' :: padded 6 fraction) ++ "+00:00".toList

lemma isoTail_inj {f g : ℤ} (hf : 0 ≤ f) (hg : 0 ≤ g) (h : isoTail f = isoTail g) : f = g := by
  unfold isoTail at h
  split_ifs at h with hf0 hg0 hg0
  · rw [hf0, hg0]
  · exact absurd (List.cons.inj h).1 (by decide)
  · exact absurd (List.cons.inj h).1 (by decide)
  · exact padded_inj hf hg (List.cons.inj (List.append_cancel_right h)).2

lemma toList_isoformat (micros : ℤ) : (isoformat micros).toList =
    padded 4 (civilFromDays (micros / 1000000 / 86400)).year ++ '-' ::
      (padded 2 (civilFromDays (micros / 1000000 / 86400)).month ++ '-' ::
        (padded 2 (civilFromDays (micros / 1000000 / 86400)).day ++ 'T' ::
          (padded 2 (micros / 1000000 % 86400 / 3600) ++ ':' ::
            (padded 2 (micros / 1000000 % 86400 / 60 % 60) ++ ':' ::
              (padded 2 (micros / 1000000 % 86400 % 60) ++ isoTail (micros % 1000000)))))) := by
  simp only [isoformat, isoTail, String.toList_ofList, List.append_assoc, List.cons_append]

/-- The text of an instant determines it. -/
theorem isoformat_inj {s t : ℤ} (hs : IsDatetime s) (ht : IsDatetime t)
    (h : isoformat s = isoformat t) : s = t := by
  have hlist := congrArg String.toList h
  rw [toList_isoformat, toList_isoformat] at hlist
  have hdash : ('-').isDigit = false := by decide
  have hcolon : (':').isDigit = false := by decide
  obtain ⟨hyear, hlist⟩ := append_sep_inj (not_mem_padded hdash) (not_mem_padded hdash) hlist
  obtain ⟨hmonth, hlist⟩ := append_sep_inj (not_mem_padded hdash) (not_mem_padded hdash) hlist
  obtain ⟨hday, hlist⟩ :=
    append_sep_inj (not_mem_padded (by decide)) (not_mem_padded (by decide)) hlist
  obtain ⟨hhour, hlist⟩ := append_sep_inj (not_mem_padded hcolon) (not_mem_padded hcolon) hlist
  obtain ⟨hminute, hlist⟩ := append_sep_inj (not_mem_padded hcolon) (not_mem_padded hcolon) hlist
  have hlen : ∀ n : ℤ, (padded 2 (n % 60)).length = 2 :=
    fun n => length_padded (by omega) (by norm_num)
  obtain ⟨hsecond, htail⟩ := List.append_inj hlist (by rw [hlen, hlen])
  have hdate : civilFromDays (s / 1000000 / 86400) = civilFromDays (t / 1000000 / 86400) := by
    obtain ⟨hy, hm, hd⟩ := civilFromDays_nonneg (z := s / 1000000 / 86400)
      (by have := hs.1; omega)
    obtain ⟨hy', hm', hd'⟩ := civilFromDays_nonneg (z := t / 1000000 / 86400)
      (by have := ht.1; omega)
    exact CivilDate.eq_of_parts (padded_inj hy hy' hyear)
      (padded_inj hm hm' hmonth) (padded_inj hd hd' hday)
  have hdays := civilFromDays_injective hdate
  have hhours := padded_inj (by omega) (by omega) hhour
  have hminutes := padded_inj (by omega) (by omega) hminute
  have hseconds := padded_inj (by omega) (by omega) hsecond
  have hmicros := isoTail_inj (by omega) (by omega) htail
  omega

end Python
