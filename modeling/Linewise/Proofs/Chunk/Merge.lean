import Linewise.Proofs.Chunk.Extraction
import Linewise.Proofs.Chunk.Placement
/-! Merging line ranges. Sorted by start, the ranges are swept once, a range starting within the
distance after the current one widening it. The merged ranges are sorted and apart; each range
given lies in exactly one, which starts at a given start and ends at the furthest end inside it,
and merging them again leaves them. -/
namespace Linewise.Chunk

/-- What merging ranges `rs` within distance `d` answers of `ms`. -/
structure Merged (d : Nat) (rs ms : List (Nat × Nat)) : Prop where
  apart : ms.Pairwise fun a b => a.2 + d < b.1
  sorted : ms.Pairwise fun a b => a.1 < b.1
  covers : ∀ r ∈ rs, ∃! m, m ∈ ms ∧ m.1 ≤ r.1 ∧ r.2 ≤ m.2
  starts : ∀ m ∈ ms, ∃ r ∈ rs, r.1 = m.1
  ends : ∀ m ∈ ms, ∃ r ∈ rs, m.1 ≤ r.1 ∧ r.2 = m.2
  furthest : ∀ m ∈ ms, ∀ r ∈ rs, m.1 ≤ r.1 → r.1 ≤ m.2 → r.2 ≤ m.2

theorem bounds_of_mem_mergeSorted (d : Nat) (rs : List (Nat × Nat)) :
    ∀ cur : Nat × Nat, (cur :: rs).Pairwise (fun a b => a.1 ≤ b.1) →
      ∀ m ∈ mergeSorted d cur rs, (m.1 = cur.1 ∨ ∃ r ∈ rs, r.1 = m.1) ∧
        ∃ r ∈ cur :: rs, m.1 ≤ r.1 ∧ r.2 = m.2 := by
  induction rs with
  | nil =>
    intro cur _ m hm
    simp only [mergeSorted, List.mem_singleton] at hm
    rw [hm]
    exact ⟨.inl rfl, cur, List.mem_cons_self, le_rfl, rfl⟩
  | cons r rs ih =>
    intro cur hs m hm
    obtain ⟨hcur, hr⟩ := List.pairwise_cons.1 hs
    have hle : cur.1 ≤ r.1 := hcur r List.mem_cons_self
    rw [mergeSorted] at hm
    split at hm
    · -- the widened range keeps the current start and takes the larger of the two ends
      obtain ⟨hstart, e, he, hme, hend⟩ := ih (cur.1, max cur.2 r.2) (pairwise_widen_head _ hs) m hm
      have hstart' : m.1 = cur.1 ∨ ∃ u ∈ r :: rs, u.1 = m.1 := by
        rcases hstart with h | ⟨u, hu, h⟩
        · exact .inl h
        · exact .inr ⟨u, List.mem_cons_of_mem _ hu, h⟩
      refine ⟨hstart', ?_⟩
      rcases List.mem_cons.1 he with rfl | he
      · rcases le_total cur.2 r.2 with h | h
        · exact ⟨r, by simp, by simp only at hme; omega, by simp only at hend; omega⟩
        · exact ⟨cur, List.mem_cons_self, hme, by simp only at hend; omega⟩
      · exact ⟨e, List.mem_cons_of_mem _ (List.mem_cons_of_mem _ he), hme, hend⟩
    · rcases List.mem_cons.1 hm with rfl | hm
      · exact ⟨.inl rfl, m, List.mem_cons_self, le_rfl, rfl⟩
      · obtain ⟨hstart, e, he, hme, hend⟩ := ih r hr m hm
        refine ⟨.inr ?_, e, List.mem_cons_of_mem _ he, hme, hend⟩
        rcases hstart with h | ⟨u, hu, h⟩
        · exact ⟨r, List.mem_cons_self, h.symm⟩
        · exact ⟨u, List.mem_cons_of_mem _ hu, h⟩

theorem mergeSorted_of_apart (d : Nat) (rs : List (Nat × Nat)) :
    ∀ cur : Nat × Nat, (cur :: rs).Pairwise (fun a b => a.2 + d < b.1) →
      mergeSorted d cur rs = cur :: rs := by
  induction rs with
  | nil => intro cur _; rfl
  | cons r rs ih =>
    intro cur hs
    obtain ⟨hcur, hr⟩ := List.pairwise_cons.1 hs
    have hfar : ¬ r.1 ≤ cur.2 + d := Nat.not_le.2 (hcur r List.mem_cons_self)
    rw [mergeSorted, if_neg hfar, ih r hr]

variable {rs : List (Nat × Nat)} {d : Nat}

theorem mem_sortRanges {r : Nat × Nat} : r ∈ sortRanges rs ↔ r ∈ rs :=
  (List.mergeSort_perm _ _).mem_iff

theorem sortRanges_of_lt (h : rs.Pairwise fun a b => a.1 < b.1) : sortRanges rs = rs := by
  unfold sortRanges
  apply List.mergeSort_of_pairwise
  refine h.imp fun hab => ?_
  simp only [hab, decide_true, Bool.true_or]

theorem bounds_of_mem_mergeRanges {m : Nat × Nat} (hm : m ∈ mergeRanges rs d) :
    (∃ r ∈ rs, r.1 = m.1) ∧ ∃ r ∈ rs, m.1 ≤ r.1 ∧ r.2 = m.2 := by
  have hs := pairwise_sortRanges rs
  unfold mergeRanges at hm
  split at hm
  · exact absurd hm List.not_mem_nil
  · next r0 rest heq =>
    rw [heq] at hs
    have hmem : ∀ r ∈ r0 :: rest, r ∈ rs := fun r hr => mem_sortRanges.1 (heq ▸ hr)
    obtain ⟨hstart, e, he, hme, hend⟩ := bounds_of_mem_mergeSorted d rest r0 hs m hm
    refine ⟨?_, e, hmem e he, hme, hend⟩
    rcases hstart with h | ⟨u, hu, h⟩
    · exact ⟨r0, hmem r0 List.mem_cons_self, h.symm⟩
    · exact ⟨u, hmem u (List.mem_cons_of_mem _ hu), h⟩

theorem apart_or_apart {ms : List (Nat × Nat)} (h : ms.Pairwise fun a b => a.2 + d < b.1)
    {m m' : Nat × Nat} (hm : m ∈ ms) (hm' : m' ∈ ms) (hne : m ≠ m') :
    m.2 + d < m'.1 ∨ m'.2 + d < m.1 := by
  induction ms with
  | nil => exact absurd hm List.not_mem_nil
  | cons a l ih =>
    obtain ⟨ha, hl⟩ := List.pairwise_cons.1 h
    rcases List.mem_cons.1 hm with rfl | h₁ <;> rcases List.mem_cons.1 hm' with rfl | h₂
    · exact absurd rfl hne
    · exact .inl (ha m' h₂)
    · exact .inr (ha m h₁)
    · exact ih hl h₁ h₂

theorem mergeRanges_merged_of_ordered (h : ∀ r ∈ rs, r.1 ≤ r.2) :
    Merged d rs (mergeRanges rs d) := by
  have happart := pairwise_mergeRanges rs d
  have hord : ∀ m ∈ mergeRanges rs d, m.1 ≤ m.2 := fun m hm => fst_le_snd_of_mem_mergeRanges d h hm
  -- a given range inside a merged range is inside no other one, since the two are apart
  have honly : ∀ r ∈ rs, ∀ m ∈ mergeRanges rs d, ∀ m' ∈ mergeRanges rs d,
      m.1 ≤ r.1 → r.2 ≤ m.2 → m'.1 ≤ r.1 → r.2 ≤ m'.2 → m' = m := by
    intro r hr m hm m' hm' h₁ h₂ h₃ h₄
    by_contra hne
    have := h r hr
    rcases apart_or_apart happart hm hm' (Ne.symm hne) with h' | h' <;> omega
  refine ⟨happart, happart.imp_of_mem fun ha _ hab => ?_, fun r hr => ?_,
    fun m hm => (bounds_of_mem_mergeRanges hm).1, fun m hm => (bounds_of_mem_mergeRanges hm).2,
    fun m hm r hr h₁ h₂ => ?_⟩
  · have := hord _ ha
    omega
  · obtain ⟨m, hm, h₁, h₂⟩ := mergeRanges_covers d hr
    refine ⟨m, ⟨hm, h₁, h₂⟩, fun m' hm' => ?_⟩
    exact honly r hr m hm m' hm'.1 h₁ h₂ hm'.2.1 hm'.2.2
  · obtain ⟨m', hm', h₃, h₄⟩ := mergeRanges_covers d hr
    by_cases he : m' = m
    · exact he ▸ h₄
    · have := h r hr
      rcases apart_or_apart happart hm hm' (Ne.symm he) with h' | h' <;> omega

/-- Merged ranges are sorted and apart, so merging them again keeps them. -/
theorem mergeRanges_of_merged {ms : List (Nat × Nat)} (h : Merged d rs ms) :
    mergeRanges ms d = ms := by
  unfold mergeRanges
  rw [sortRanges_of_lt h.sorted]
  cases ms with
  | nil => rfl
  | cons m rest => exact mergeSorted_of_apart d rest m h.apart

/-- Merging ranges that each start no later than they end: the merged ranges are sorted by start
and each starts more than `d` lines after the end of every one before it; every range lies in
exactly one merged range; a merged range starts where a range starts and ends where the furthest
range inside it ends, and no range starting inside it reaches past it. Merging again changes
nothing. -/
theorem mergeRanges_merged (rs : List (Nat × Nat)) (d : Nat) (h : ∀ r ∈ rs, r.1 ≤ r.2) :
    Merged d rs (mergeRanges rs d) ∧ mergeRanges (mergeRanges rs d) d = mergeRanges rs d := by
  have hm := mergeRanges_merged_of_ordered (d := d) h
  exact ⟨hm, mergeRanges_of_merged hm⟩

/-- Three ranges, one nested in another and one apart, merged within one line. -/
theorem mergeRanges_merged_nested :
    (∀ r ∈ [(4, 9), (0, 2), (5, 6), (12, 12)], r.1 ≤ r.2) ∧
      Merged 1 [(4, 9), (0, 2), (5, 6), (12, 12)] (mergeRanges [(4, 9), (0, 2), (5, 6), (12, 12)] 1) ∧
      mergeRanges (mergeRanges [(4, 9), (0, 2), (5, 6), (12, 12)] 1) 1 =
        mergeRanges [(4, 9), (0, 2), (5, 6), (12, 12)] 1 :=
  ⟨by decide, mergeRanges_merged _ 1 (by decide)⟩

end Linewise.Chunk
