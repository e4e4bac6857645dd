import Mathlib.Data.List.Nodup

/-!
# Keeping the first of equal elements

A list is gone through once, and an element is kept when it is the same as none kept before it. When
"the same" is an equivalence, the first element of each class is kept.
-/

namespace KeepFirst

variable {α : Type*}

/-- The elements kept so far, and those that repeat none of them. -/
def keepInto (same : α → α → Bool) : List α → List α → List α
  | kept, [] => kept
  | kept, a :: rest =>
    if kept.any (fun b => same b a) then keepInto same kept rest
    else keepInto same (kept ++ [a]) rest

/-- The relation is an equivalence between the elements of the list. -/
structure EquivalenceOn (same : α → α → Bool) (l : List α) : Prop where
  refl : ∀ a ∈ l, same a a = true
  symm : ∀ a ∈ l, ∀ b ∈ l, same a b = true → same b a = true
  trans : ∀ a ∈ l, ∀ b ∈ l, ∀ c ∈ l, same a b = true → same b c = true → same a c = true

/-- A subsequence without repetitions that has exactly one element the same as each element of the
list, namely the first of these. -/
structure KeepsFirst (same : α → α → Bool) (l kept : List α) : Prop where
  sublist : kept.Sublist l
  distinct : kept.Pairwise (fun a b => same a b = false)
  represented : ∀ a ∈ l, ∃ first, l.find? (fun b => same b a) = some first ∧
    kept.filter (fun b => same b a) = [first]

variable {same eq : α → α → Bool} {l kept done rest : List α} {a : α}

lemma find?_congr {p q : α → Bool} (h : ∀ x ∈ l, p x = q x) : l.find? p = l.find? q := by
  rw [← List.head?_filter, ← List.head?_filter, List.filter_congr h]

/-- With distinct keys, an element is the first one under its key. -/
lemma find?_of_nodup {κ : Type*} {f : α → κ} {p : α → Bool} (hkeys : (l.map f).Nodup)
    (ha : a ∈ l) (hp : p a = true) (hkey : ∀ b ∈ l, p b = true → f b = f a) :
    l.find? p = some a := by
  cases hfound : l.find? p with
  | none => exact absurd hp (List.find?_eq_none.mp hfound a ha)
  | some b =>
    have hb := List.mem_of_find?_eq_some hfound
    rw [List.inj_on_of_nodup_map hkeys hb ha (hkey b hb (List.find?_some hfound))]

lemma EquivalenceOn.subset {l' : List α} (h : EquivalenceOn same l) (hsub : l' ⊆ l) :
    EquivalenceOn same l' where
  refl a ha := h.refl a (hsub ha)
  symm a ha b hb := h.symm a (hsub ha) b (hsub hb)
  trans a ha b hb c hc := h.trans a (hsub ha) b (hsub hb) c (hsub hc)

lemma KeepsFirst.first_spec (h : KeepsFirst same l kept) (ha : a ∈ l) :
    ∃ first ∈ kept, same first a = true ∧ ∀ b ∈ kept, same b a = true → b = first := by
  obtain ⟨first, -, hfilter⟩ := h.represented a ha
  have hmem : ∀ b, b ∈ kept ∧ same b a = true ↔ b = first := by
    intro b
    have hb : b ∈ kept.filter (fun b => same b a) ↔ b ∈ [first] := by rw [hfilter]
    rwa [List.mem_filter, List.mem_singleton] at hb
  obtain ⟨hkept, hsame⟩ := (hmem first).mpr rfl
  exact ⟨first, hkept, hsame, fun b hb hba => (hmem b).mp ⟨hb, hba⟩⟩

/-- An element that is the same as a kept one is skipped. -/
lemma KeepsFirst.skip (h : KeepsFirst same done kept) (heq : EquivalenceOn same (done ++ [a]))
    (hany : kept.any (fun b => same b a) = true) : KeepsFirst same (done ++ [a]) kept := by
  refine ⟨h.sublist.trans (List.sublist_append_left done [a]), h.distinct, fun c hc => ?_⟩
  rcases List.mem_append.mp hc with hc | hc
  · obtain ⟨first, hfind, hfilter⟩ := h.represented c hc
    exact ⟨first, by rw [List.find?_append, hfind, Option.some_or], hfilter⟩
  · obtain rfl := List.mem_singleton.mp hc
    obtain ⟨b, hb, hbc⟩ := List.any_eq_true.mp hany
    have hbdone := h.sublist.subset hb
    have hmem : ∀ x ∈ done, x ∈ done ++ [c] := fun x hx => List.mem_append_left [c] hx
    have hclass : ∀ x ∈ done, same x b = same x c := by
      intro x hx
      refine Bool.eq_iff_iff.mpr ⟨fun hxb => ?_, fun hxc => ?_⟩
      · exact heq.trans x (hmem x hx) b (hmem b hbdone) c (by simp) hxb hbc
      · exact heq.trans x (hmem x hx) c (by simp) b (hmem b hbdone) hxc
          (heq.symm b (hmem b hbdone) c (by simp) hbc)
    obtain ⟨first, hfind, hfilter⟩ := h.represented b hbdone
    refine ⟨first, ?_, ?_⟩
    · rw [List.find?_append, ← find?_congr hclass, hfind, Option.some_or]
    · rw [← List.filter_congr (fun x hx => hclass x (h.sublist.subset hx)), hfilter]

/-- An element that is the same as no kept one is the first of its class. -/
lemma KeepsFirst.keep (h : KeepsFirst same done kept) (heq : EquivalenceOn same (done ++ [a]))
    (hany : ¬kept.any (fun b => same b a) = true) : KeepsFirst same (done ++ [a]) (kept ++ [a]) := by
  have hmem : ∀ x ∈ done, x ∈ done ++ [a] := fun x hx => List.mem_append_left [a] hx
  have hself : a ∈ done ++ [a] := by simp
  have hkept : ∀ b ∈ kept, same b a = false := by
    intro b hb
    exact Bool.eq_false_iff.mpr (fun hba => hany (List.any_eq_true.mpr ⟨b, hb, hba⟩))
  have hdone : ∀ x ∈ done, same x a = false := by
    intro x hx
    refine Bool.eq_false_iff.mpr (fun hxa => ?_)
    obtain ⟨first, hfirst, hsame, -⟩ := h.first_spec hx
    have hfirsta := heq.trans first (hmem first (h.sublist.subset hfirst)) x (hmem x hx) a hself
      hsame hxa
    exact absurd hfirsta (by rw [hkept first hfirst]; exact Bool.false_ne_true)
  refine ⟨h.sublist.append (List.Sublist.refl [a]), ?_, fun c hc => ?_⟩
  · refine List.pairwise_append.mpr ⟨h.distinct, List.pairwise_singleton _ a, fun b hb x hx => ?_⟩
    rw [List.mem_singleton.mp hx]
    exact hkept b hb
  · rcases List.mem_append.mp hc with hc | hc
    · obtain ⟨first, hfind, hfilter⟩ := h.represented c hc
      have hac : same a c = false := by
        refine Bool.eq_false_iff.mpr (fun hac => ?_)
        exact absurd (heq.symm a hself c (hmem c hc) hac)
          (by rw [hdone c hc]; exact Bool.false_ne_true)
      refine ⟨first, by rw [List.find?_append, hfind, Option.some_or], ?_⟩
      rw [List.filter_append, hfilter, List.filter_singleton, hac]
      rfl
    · obtain rfl := List.mem_singleton.mp hc
      have hrefl := heq.refl c hself
      refine ⟨c, ?_, ?_⟩
      · have hnone : done.find? (fun b => same b c) = none :=
          List.find?_eq_none.mpr (fun x hx => by rw [hdone x hx]; exact Bool.false_ne_true)
        rw [List.find?_append, hnone, Option.none_or, List.find?_cons, hrefl]
      · have hempty : kept.filter (fun b => same b c) = [] :=
          List.filter_eq_nil_iff.mpr (fun x hx => by rw [hkept x hx]; exact Bool.false_ne_true)
        rw [List.filter_append, hempty, List.filter_singleton, hrefl]
        rfl

lemma KeepsFirst.run (h : KeepsFirst same done kept) (heq : EquivalenceOn same (done ++ rest)) :
    KeepsFirst same (done ++ rest) (keepInto same kept rest) := by
  induction rest generalizing done kept with
  | nil => rwa [List.append_nil]
  | cons a rest ih =>
    rw [List.append_cons] at heq ⊢
    have hstep := heq.subset (List.subset_append_left (done ++ [a]) rest)
    rw [keepInto]
    split_ifs with hany
    · exact ih (h.skip hstep hany) heq
    · exact ih (h.keep hstep hany) heq

/-- The first of each class is kept. -/
theorem keepsFirst_keepInto (heq : EquivalenceOn same l) : KeepsFirst same l (keepInto same [] l) :=
  (⟨List.Sublist.refl [], List.Pairwise.nil, fun _ h => nomatch h⟩ : KeepsFirst same [] []).run heq

lemma KeepsFirst.congr (h : KeepsFirst same l kept) (hsame : ∀ a ∈ l, ∀ b ∈ l, same a b = eq a b) :
    KeepsFirst eq l kept := by
  refine ⟨h.sublist, ?_, fun a ha => ?_⟩
  · refine h.distinct.imp_of_mem (fun {b c} hb hc hbc => ?_)
    rw [← hsame b (h.sublist.subset hb) c (h.sublist.subset hc)]
    exact hbc
  · obtain ⟨first, hfind, hfilter⟩ := h.represented a ha
    refine ⟨first, ?_, ?_⟩
    · rw [← find?_congr (fun b hb => hsame b hb a ha), hfind]
    · rw [← List.filter_congr (fun b hb => hsame b (h.sublist.subset hb) a ha), hfilter]

/-- A list thinned out by a coarser relation keeps the first of each class of the finer one only when
the two relations agree. -/
theorem keepsFirst_iff (hsame : EquivalenceOn same l) (heq : EquivalenceOn eq l)
    (hfiner : ∀ a ∈ l, ∀ b ∈ l, eq a b = true → same a b = true) :
    KeepsFirst eq l (keepInto same [] l) ↔
      ∀ a ∈ l, ∀ b ∈ l, same a b = true → eq a b = true := by
  have hkeeps := keepsFirst_keepInto hsame
  constructor
  · intro h a ha b hb hab
    obtain ⟨f, hf, hfa, -⟩ := h.first_spec ha
    obtain ⟨g, hg, hgb, -⟩ := h.first_spec hb
    obtain ⟨first, -, -, hunique⟩ := hkeeps.first_spec ha
    have hfl := h.sublist.subset hf
    have hgl := h.sublist.subset hg
    have hga := hsame.trans g hgl b hb a ha (hfiner g hgl b hb hgb) (hsame.symm a ha b hb hab)
    have hfg : f = g := (hunique f hf (hfiner f hfl a ha hfa)).trans (hunique g hg hga).symm
    exact heq.trans a ha f hfl b hb (heq.symm f hfl a ha hfa) (hfg ▸ hgb)
  · intro h
    refine hkeeps.congr (fun a ha b hb => ?_)
    exact Bool.eq_iff_iff.mpr ⟨h a ha b hb, hfiner a ha b hb⟩

end KeepFirst
