import Linewise.Proofs.Align.Shortest
import Linewise.Proofs.Align.Segments
/-! The segments of an alignment are a shortest edit script: sliding and folding keep every kept
line, so the equal segments cover as many lines as any path through the edit graph takes diagonal
steps, that is a longest common subsequence; and no line of a replacement's old range is a line
of its new range. -/
namespace Linewise.Align

/-- The number of lines equal segments cover. -/
def equalLen : List Segment → Nat
  | [] => 0
  | s :: segs => (if s.tag = .equal then s.oldLen else 0) + equalLen segs

@[simp] theorem equalLen_nil : equalLen [] = 0 := rfl

@[simp] theorem equalLen_cons (s : Segment) (segs : List Segment) :
    equalLen (s :: segs) = (if s.tag = .equal then s.oldLen else 0) + equalLen segs := rfl

@[simp] theorem equalLen_append (xs ys : List Segment) :
    equalLen (xs ++ ys) = equalLen xs + equalLen ys := by
  induction xs with
  | nil => simp
  | cons s xs ih => simp [ih, Nat.add_assoc]

/-! ### Sliding keeps the kept lines -/

section Slides

variable {old new : Array String} {rs rs' : List Run}

theorem keptLen_dropEmpty (r : Run) :
    keptLen (dropEmpty r) = if r.move = .keep then r.len else 0 := by
  unfold dropEmpty
  split <;> simp [*]

theorem SlideStep.keptLen_eq (h : SlideStep old new rs rs') : keptLen rs' = keptLen rs := by
  cases h with
  | swap ha hb _ => simp [ha, hb]
  | merge ha hab => simp [Run.growRight, ha, hab]
  | erase hx => simp [hx]
  | up hs =>
    have := hs.le_prev
    simp [keptLen_dropEmpty, Run.shrinkLeft, Run.shiftLeft, hs.keep, hs.add]
    omega
  | upInto hs hn =>
    have := hs.le_prev
    simp [keptLen_dropEmpty, Run.shrinkLeft, Run.shiftLeft, Run.growLeft, hs.keep, hs.add, hn]
    omega
  | down hs =>
    have := hs.le_next
    simp [keptLen_dropEmpty, Run.shrinkRight, Run.shiftRight, hs.keep, hs.add]
    omega
  | downInto hs hp =>
    have := hs.le_next
    simp [keptLen_dropEmpty, Run.shrinkRight, Run.shiftRight, Run.growRight, hs.keep, hs.add, hp]
    omega

theorem keptLen_slides (h : Relation.ReflTransGen (SlideStep old new) rs rs') :
    keptLen rs' = keptLen rs := by
  induction h with
  | refl => rfl
  | tail _ hs ih => rw [hs.keptLen_eq, ih]

theorem keptLen_slideChanges (old new : Array String) (rs : List Run) :
    keptLen (slideChanges old new rs) = keptLen rs :=
  keptLen_slides ((slidePass_slides old new .drop _ _ rs 0).trans
    (slidePass_slides old new .add _ _ _ 0))

end Slides

/-! ### Folding keeps the kept lines -/

namespace Folding

/-- The lines a fold has kept: those of the equal segments it wrote and of its pending equal
stretch. -/
def keptSoFar (f : Folding) : Nat :=
  equalLen f.done.toList + (f.kept.map (·.2.2)).getD 0

theorem keptSoFar_flushKept (f : Folding) :
    f.flushKept.keptSoFar = f.keptSoFar ∧ f.flushKept.kept = none := by
  unfold flushKept keptSoFar
  split <;> simp_all [Segment.oldLen]

theorem keptSoFar_flushChange (f : Folding) :
    f.flushChange.keptSoFar = f.keptSoFar ∧ f.flushChange.kept = f.kept := by
  unfold flushChange keptSoFar
  split <;> simp

theorem keptSoFar_step (f : Folding) (r : Run) :
    (f.step r).keptSoFar = f.keptSoFar + if r.move = .keep then r.len else 0 := by
  obtain ⟨hk, -⟩ := keptSoFar_flushKept f
  obtain ⟨hc, -⟩ := keptSoFar_flushChange f
  unfold step
  split
  · -- the run joins the pending equal stretch of the fold with its change written
    rename_i hm
    rw [if_pos hm, ← hc]
    generalize f.flushChange = g
    obtain ⟨done, kept, dropped, added⟩ := g
    rcases kept with _ | ⟨o, n, l⟩ <;> simp [keptSoFar, Nat.add_assoc]
  · rename_i hm
    rw [if_neg (by rw [hm]; decide), Nat.add_zero, ← hk]
    rfl
  · rename_i hm
    rw [if_neg (by rw [hm]; decide), Nat.add_zero, ← hk]
    rfl

theorem keptSoFar_foldl (rs : List Run) (f : Folding) :
    (rs.foldl step f).keptSoFar = f.keptSoFar + keptLen rs := by
  induction rs generalizing f with
  | nil => simp
  | cons r rs ih => simp [ih, keptSoFar_step, Nat.add_assoc]

theorem equalLen_finish (f : Folding) : equalLen f.finish = f.keptSoFar := by
  obtain ⟨hk, hnone⟩ := keptSoFar_flushKept f
  obtain ⟨hc, hnone'⟩ := keptSoFar_flushChange f.flushKept
  rw [← hk, ← hc]
  simp [finish, keptSoFar, hnone', hnone]

end Folding

theorem equalLen_segmentsOfRuns (rs : List Run) : equalLen (segmentsOfRuns rs) = keptLen rs := by
  unfold segmentsOfRuns
  rw [Folding.equalLen_finish, Folding.keptSoFar_foldl]
  simp [Folding.keptSoFar]

theorem equalLen_segments (old new : Array String) :
    equalLen (segments old new) = keptLen (shortestRuns old new) := by
  rw [segments, equalLen_segmentsOfRuns, keptLen_slideChanges]

/-! ### Scripts are paths -/

section Script

variable {old new : Array String} {p q r : Nat × Nat} {segs xs ys : List Segment} {s : Segment}

theorem Script.split (h : Script old new p (xs ++ ys) r) :
    ∃ q, Script old new p xs q ∧ Script old new q ys r := by
  obtain ⟨ho, hn, hs, ha⟩ := h
  rw [List.filterMap_append, tiles_append] at ho hn
  obtain ⟨a, ho₁, ho₂⟩ := ho
  obtain ⟨b, hn₁, hn₂⟩ := hn
  exact ⟨(a, b), ⟨ho₁, hn₁, fun t ht => hs t (List.mem_append_left _ ht), ha.left_of_append⟩,
    ⟨ho₂, hn₂, fun t ht => hs t (List.mem_append_right _ ht), ha.right_of_append⟩⟩

theorem Script.path_single (h : Script old new p [s] q) :
    ∃ e, Path q.1 q.2 (sameLine old new) p e q ∧ e + 2 * equalLen [s] + p.1 + p.2 = q.1 + q.2 := by
  obtain ⟨ho, hn, hs⟩ := script_singleton.1 h
  obtain ⟨x, y⟩ := p
  obtain ⟨x', y'⟩ := q
  cases ht : s.tag with
  | equal =>
    simp only [Segment.Shaped, ht] at hs
    simp [Segment.oldSpan?, Segment.newSpan?, ht, Tiles] at ho hn
    obtain ⟨hlt, hlen, heq⟩ := hs
    unfold Segment.newLen Segment.oldLen at hlen
    unfold Segment.oldLen at heq
    obtain ⟨rfl, rfl⟩ := ho
    obtain ⟨rfl, rfl⟩ := hn
    have hd := (Path.refl : Path s.oldEnd s.newEnd (sameLine old new) _ 0 _).diags
      (s.oldEnd - s.oldStart) fun i hi => ⟨by omega, by omega, heq i hi⟩
    rw [show s.oldStart + (s.oldEnd - s.oldStart) = s.oldEnd by omega,
      show s.newStart + (s.oldEnd - s.oldStart) = s.newEnd by omega] at hd
    refine ⟨0, hd, ?_⟩
    simp [ht, Segment.oldLen]
    omega
  | replace | delete | insert =>
    simp only [Segment.Shaped, ht] at hs
    simp [Segment.oldSpan?, Segment.newSpan?, ht, Tiles] at ho hn
    have hd := (Path.refl : Path x' y' (sameLine old new) (x, y) 0 _).extend
      (show x ≤ x' by omega) (show y ≤ y' by omega)
    exact ⟨_, hd, by simp [ht]; omega⟩

/-- A script is a path through the edit graph whose diagonal steps are the lines of its equal
segments. -/
theorem Script.path (h : Script old new p segs q) :
    ∃ e, Path q.1 q.2 (sameLine old new) p e q ∧ e + 2 * equalLen segs + p.1 + p.2 = q.1 + q.2 := by
  induction segs generalizing p with
  | nil =>
    obtain rfl := script_nil.1 h
    exact ⟨0, .refl, by simp⟩
  | cons s segs ih =>
    obtain ⟨q', h₁, h₂⟩ := Script.split (show Script old new p ([s] ++ segs) q from h)
    obtain ⟨e₁, hp₁, he₁⟩ := h₁.path_single
    obtain ⟨e₂, hp₂, he₂⟩ := ih h₂
    have hle := hp₂.le
    refine ⟨e₁ + e₂, (hp₁.rebound hle.1 hle.2).trans hp₂, ?_⟩
    simp only [equalLen_cons, equalLen_nil, Nat.add_zero] at he₁ ⊢
    omega

end Script

/-! ### Paths and common subsequences -/

section Subsequence

variable {old new : Array String}

theorem Path.sublist {n m e : Nat} {q : Nat × Nat} (h : Path n m (sameLine old new) (0, 0) e q)
    (hn : n ≤ old.size) (hm : m ≤ new.size) :
    ∃ l : List String, l.Sublist (old.toList.take q.1) ∧ l.Sublist (new.toList.take q.2) ∧
      2 * l.length + e = q.1 + q.2 := by
  induction h with
  | refl => exact ⟨[], List.nil_sublist _, List.nil_sublist _, rfl⟩
  | @right e x y _ ih =>
    obtain ⟨l, h₁, h₂, hl⟩ := ih
    exact ⟨l, h₁.trans (List.take_sublist_take_left (by omega)), h₂, by omega⟩
  | @down e x y _ ih =>
    obtain ⟨l, h₁, h₂, hl⟩ := ih
    exact ⟨l, h₁, h₂.trans (List.take_sublist_take_left (by omega)), by omega⟩
  | @diag e x y _ hx hy hs ih =>
    obtain ⟨l, h₁, h₂, hl⟩ := ih
    -- the diagonal step takes the line both sequences share there
    have hx' : x < old.size := by omega
    have hy' : y < new.size := by omega
    unfold sameLine at hs
    rw [Array.getElem?_eq_getElem hx', Array.getElem?_eq_getElem hy', Option.some_inj] at hs
    refine ⟨l ++ [old[x]], ?_, ?_, by simp; omega⟩
    · rw [List.take_add_one]
      simpa [hx'] using h₁.append (List.Sublist.refl [old[x]])
    · rw [List.take_add_one, hs]
      simpa [hy'] using h₂.append (List.Sublist.refl [new[y]])

theorem drop_eq_cons {xs : Array String} {x : Nat} {a : String} {rest : List String}
    (h : xs.toList.drop x = a :: rest) :
    x < xs.size ∧ xs[x]? = some a ∧ xs.toList.drop (x + 1) = rest := by
  have hx : x < xs.size := by
    by_contra hge
    rw [List.drop_eq_nil_iff.2 (by simp; omega)] at h
    cases h
  rw [List.drop_eq_getElem_cons (by simpa using hx)] at h
  obtain ⟨h₁, h₂⟩ := List.cons.inj h
  refine ⟨hx, ?_, h₂⟩
  rw [← h₁]
  simp

theorem path_of_sublist (old new : Array String) :
    ∀ {A B l : List String} {x y : Nat}, old.toList.drop x = A → new.toList.drop y = B →
      x ≤ old.size → y ≤ new.size → l.Sublist A → l.Sublist B →
      Path old.size new.size (sameLine old new) (x, y) (A.length + B.length - 2 * l.length)
        (old.size, new.size) := by
  intro A
  induction A with
  | nil =>
    intro B l x y hA hB hx hy hlA _
    obtain rfl := List.sublist_nil.1 hlA
    have hx' : x = old.size := by
      have := List.drop_eq_nil_iff.1 hA
      simp only [Array.length_toList] at this
      omega
    subst hx'
    have hd := (Path.refl : Path old.size new.size (sameLine old new) (old.size, y) 0 _).extend
      le_rfl hy
    rw [← hB, List.length_drop, Array.length_toList]
    simpa using hd
  | cons a A ihA =>
    intro B
    induction B with
    | nil =>
      intro l x y hA hB hx hy _ hlB
      obtain rfl := List.sublist_nil.1 hlB
      have hy' : y = new.size := by
        have := List.drop_eq_nil_iff.1 hB
        simp only [Array.length_toList] at this
        omega
      subst hy'
      have hd := (Path.refl : Path old.size new.size (sameLine old new) (x, new.size) 0 _).extend
        hx le_rfl
      rw [← hA, List.length_drop, Array.length_toList]
      simpa using hd
    | cons b B ihB =>
      intro l x y hA hB hx hy hlA hlB
      obtain ⟨hxs, hxa, hA'⟩ := drop_eq_cons hA
      obtain ⟨hys, hyb, hB'⟩ := drop_eq_cons hB
      cases hlA with
      | cons _ hlA' =>
        -- the old line at `x` is left out: step right
        have hp := ihA hA' hB (by omega) hy hlA' hlB
        have hl := hlA'.length_le
        have hl' := hlB.length_le
        simp only [List.length_cons] at hp hl hl' ⊢
        rw [show A.length + 1 + (B.length + 1) - 2 * l.length =
          A.length + (B.length + 1) - 2 * l.length + 1 by omega]
        exact hp.right_head
      | cons_cons _ hlA' =>
        rename_i l'
        cases hlB with
        | cons _ hlB' =>
          -- the new line at `y` is left out: step down
          have hp := ihB hA hB' hx (by omega) (hlA'.cons_cons a) hlB'
          have hl := hlA'.length_le
          have hl' := hlB'.length_le
          simp only [List.length_cons] at hp hl hl' ⊢
          rw [show A.length + 1 + (B.length + 1) - 2 * (l'.length + 1) =
            A.length + 1 + B.length - 2 * (l'.length + 1) + 1 by omega]
          exact hp.down_head
        | cons_cons _ hlB' =>
          -- both lines are the subsequence's next one: step along the diagonal
          have hp := ihA hA' hB' (by omega) (by omega) hlA' hlB'
          simp only [List.length_cons]
          rw [show A.length + 1 + (B.length + 1) - 2 * (l'.length + 1) =
            A.length + B.length - 2 * l'.length by omega]
          exact hp.diag_head hxs hys (by unfold sameLine; rw [hxa, hyb])

end Subsequence

/-! ### Shortest scripts -/

section Shortest

variable {old new : Array String}

/-- No path through the edit graph makes fewer edits than the segments leave. -/
theorem segments_kept (old new : Array String) {e : Nat}
    (hp : Path old.size new.size (sameLine old new) (0, 0) e (old.size, new.size)) :
    old.size + new.size ≤ 2 * equalLen (segments old new) + e := by
  rw [equalLen_segments]
  exact shortestRuns_kept old new hp

/-- No common subsequence is longer than the equal segments. -/
theorem length_le_equalLen {l : List String} (hA : l.Sublist old.toList)
    (hB : l.Sublist new.toList) : l.length ≤ equalLen (segments old new) := by
  have hp := path_of_sublist old new List.drop_zero List.drop_zero (Nat.zero_le _)
    (Nat.zero_le _) hA hB
  have hk := segments_kept old new hp
  have h₁ := hA.length_le
  have h₂ := hB.length_le
  simp only [Array.length_toList] at hk h₁ h₂
  omega

/-- The lines of the equal segments make a common subsequence. -/
theorem exists_sublist_equalLen (old new : Array String) :
    ∃ l : List String, l.Sublist old.toList ∧ l.Sublist new.toList ∧
      l.length = equalLen (segments old new) := by
  obtain ⟨e, hp, he⟩ := (script_segments old new).path
  obtain ⟨l, h₁, h₂, hl⟩ := hp.sublist le_rfl le_rfl
  dsimp only at h₁ h₂ hl he
  rw [← Array.length_toList, List.take_length] at h₁
  rw [← Array.length_toList, List.take_length] at h₂
  exact ⟨l, h₁, h₂, by omega⟩

/-- A line of a replacement's old range equal to a line of its new range would give a path with
a diagonal step through the replacement, two edits shorter than the segments allow. -/
theorem replace_lines_differ {s : Segment} (hs : s ∈ segments old new) (ht : s.tag = .replace)
    {i j : Nat} (hi₁ : s.oldStart ≤ i) (hi₂ : i < s.oldEnd) (hj₁ : s.newStart ≤ j)
    (hj₂ : j < s.newEnd) : old[i]? ≠ new[j]? := by
  intro heq
  obtain ⟨pre, post, hsplit⟩ := List.append_of_mem hs
  have hscript := script_segments old new
  rw [hsplit] at hscript
  obtain ⟨⟨a, b⟩, h₁, h₂⟩ := hscript.split
  obtain ⟨⟨c, d⟩, h₂₁, h₂₂⟩ := Script.split (show Script old new (a, b) ([s] ++ post) _ from h₂)
  -- the replacement runs from `(a, b)` to `(c, d)`
  obtain ⟨ho, hn, -⟩ := script_singleton.1 h₂₁
  simp [Segment.oldSpan?, Segment.newSpan?, ht, Tiles] at ho hn
  obtain ⟨rfl, rfl⟩ := ho
  obtain ⟨rfl, rfl⟩ := hn
  obtain ⟨e₁, hp₁, he₁⟩ := h₁.path
  obtain ⟨e₃, hp₃, he₃⟩ := h₂₂.path
  have hmid := (((Path.refl : Path s.oldEnd s.newEnd (sameLine old new) _ 0 _).extend hi₁
    hj₁).diag hi₂ hj₂ heq).extend (Nat.succ_le_of_lt hi₂) (Nat.succ_le_of_lt hj₂)
  have hle := hp₃.le
  dsimp only at hp₁ he₁ hp₃ he₃ hle
  have hall := ((hp₁.rebound (by omega) (by omega)).trans
    (hmid.rebound hle.1 hle.2)).trans hp₃
  have hk := segments_kept old new hall
  rw [hsplit] at hk
  simp only [equalLen_append, equalLen_cons, ht, reduceCtorEq, if_false] at hk
  omega

/-- The segments of an alignment make a shortest edit script. Their equal segments cover as many
lines as a longest common subsequence of the two sequences has: the lines they cover make one,
and no common subsequence is longer. No line of a replacement's old range equals a line of its
new range. -/
theorem segments_shortest (old new : Array String) :
    IsGreatest {k | ∃ l : List String, l.Sublist old.toList ∧ l.Sublist new.toList ∧ l.length = k}
        (equalLen (segments old new)) ∧
      ∀ s ∈ segments old new, s.tag = .replace → ∀ i j, s.oldStart ≤ i → i < s.oldEnd →
        s.newStart ≤ j → j < s.newEnd → old[i]? ≠ new[j]? := by
  refine ⟨⟨exists_sublist_equalLen old new, ?_⟩, fun s hs ht i j => replace_lines_differ hs ht⟩
  rintro k ⟨l, hA, hB, rfl⟩
  exact length_le_equalLen hA hB

end Shortest

end Linewise.Align
