import Linewise.Proofs.Align.Slides
/-! What one call of a slide does, said once: it stops, or makes one local rewrite that moves the
change up (fewer places and lines before it) or down (less after it) and adds no run of its move
after it. So the slides keep the tiling, a pass ends once the runs of its move after the cursor
are used up, and more fuel changes no answer. -/
namespace Linewise.Align

/-- The lines of the runs before place `p`. -/
def linesBefore (rs : List Run) (p : Nat) : Nat := ((rs.take p).map Run.len).sum

/-- The runs of move `m` from place `p` on. -/
def changesFrom (m : Move) (rs : List Run) (p : Nat) : Nat := (rs.drop p).countP (·.move == m)

/-- The runs after place `p`, each counted with its lines and once more for itself. -/
def weightAfter (rs : List Run) (p : Nat) : Nat := ((rs.drop (p + 1)).map fun r => r.len + 1).sum

section Counts

variable {pre l : List Run} {a : Run} {i : Nat} {m : Move}

@[simp] theorem linesBefore_zero : linesBefore l 0 = 0 := by simp [linesBefore]

@[simp] theorem linesBefore_append_length :
    linesBefore (pre ++ l) (pre.length + i) = (pre.map Run.len).sum + linesBefore l i := by
  simp [linesBefore, List.take_length_add_append]

@[simp] theorem linesBefore_append_length_self :
    linesBefore (pre ++ l) pre.length = (pre.map Run.len).sum := by
  simp [linesBefore]

@[simp] theorem linesBefore_cons_succ : linesBefore (a :: l) (i + 1) = a.len + linesBefore l i := by
  simp [linesBefore]

@[simp] theorem changesFrom_append_length :
    changesFrom m (pre ++ l) (pre.length + i) = changesFrom m l i := by
  simp [changesFrom, List.drop_length_add_append]

@[simp] theorem changesFrom_zero : changesFrom m l 0 = l.countP (·.move == m) := rfl

@[simp] theorem changesFrom_cons_succ : changesFrom m (a :: l) (i + 1) = changesFrom m l i := rfl

@[simp] theorem weightAfter_append_length :
    weightAfter (pre ++ a :: l) pre.length = (l.map fun r => r.len + 1).sum := by
  simp [weightAfter, List.drop_length_add_append]

end Counts

/-- What one call of `slideUp` that goes on guarantees: fewer places and lines lie before the
change, it keeps its move, and no run of its move joins those after it. -/
structure UpStep (rs : List Run) (p : Nat) (rs' : List Run) (p' : Nat) : Prop where
  lt : p' + linesBefore rs' p' < p + linesBefore rs p
  move : (rs'[p']?).map Run.move = (rs[p]?).map Run.move
  after : ∀ r, rs[p]? = some r → changesFrom r.move rs' (p' + 1) ≤ changesFrom r.move rs (p + 1)

section UpSteps

variable {pre T T' : List Run} {prev prev' cur cur' : Run}

theorem upStep_back (hm : cur'.move = cur.move)
    (hT : T'.countP (·.move == cur.move) ≤ T.countP (·.move == cur.move)) :
    UpStep (pre ++ prev :: cur :: T) (pre.length + 1) (pre ++ cur' :: T') pre.length := by
  refine ⟨?_, by simp [hm], ?_⟩
  · simp
    omega
  · intro r hr
    obtain rfl : cur = r := by simpa using hr
    simp only [Nat.add_assoc, changesFrom_append_length]
    simpa [changesFrom] using hT

theorem upStep_stay (hlen : prev'.len < prev.len) (hm : cur'.move = cur.move)
    (hT : T'.countP (·.move == cur.move) ≤ T.countP (·.move == cur.move)) :
    UpStep (pre ++ prev :: cur :: T) (pre.length + 1) (pre ++ prev' :: cur' :: T') (pre.length + 1) := by
  refine ⟨?_, by simp [hm], ?_⟩
  · simp
    omega
  · intro r hr
    obtain rfl : cur = r := by simpa using hr
    simp only [Nat.add_assoc, changesFrom_append_length]
    simpa [changesFrom] using hT

end UpSteps

/-- One call of `slideUp` stops where it is or makes an `UpStep` that is a `SlideStep`, whatever
its fuel. -/
theorem slideUp_step (old new : Array String) (rs : List Run) (p : Nat) :
    (∀ f, slideUp old new (f + 1) rs p = (rs, p)) ∨
      ∃ rs' p', UpStep rs p rs' p' ∧ SlideStep old new rs rs' ∧
        ∀ f, slideUp old new (f + 1) rs p = slideUp old new f rs' p' := by
  cases p with
  | zero => exact .inl fun f => by simp [slideUp]
  | succ q =>
  cases hcur : rs[q + 1]? with
  | none => exact .inl fun f => by simp [slideUp, hcur]
  | some cur =>
  cases hprev : rs[q]? with
  | none => exact .inl fun f => by simp [slideUp, hcur, hprev]
  | some prev =>
  obtain ⟨pre, post, rfl, rfl⟩ := exists_split hprev hcur
  cases hc : cur.move <;> cases hp : prev.move
  -- a kept run does not move
  case keep.keep | keep.drop | keep.add => exact .inl fun f => by simp [slideUp, hc]
  -- changes of different moves are exchanged
  case drop.add | add.drop =>
    refine .inr ⟨pre ++ cur :: prev :: post, pre.length, upStep_back rfl (by simp [hc, hp]),
      .swap (by simp [hp]) (by simp [hc]) (by simp [hc, hp]), fun f => ?_⟩
    simp [slideUp, hc, hp, swapNext_split]
  -- changes of one move are merged
  case drop.drop =>
    refine .inr ⟨pre ++ prev.growRight cur.len :: post, pre.length,
      upStep_back (by simp [hc, hp]) le_rfl, .merge (by simp [hp]) (by rw [hc, hp]), fun f => ?_⟩
    simp [slideUp, hc, hp, modify_append_length_self, eraseIdx_append_length,
      cur.oldLen_of_move (by simp [hc])]
  case add.add =>
    refine .inr ⟨pre ++ prev.growRight cur.len :: post, pre.length,
      upStep_back (by simp [hc, hp]) le_rfl, .merge (by simp [hp]) (by rw [hc, hp]), fun f => ?_⟩
    simp [slideUp, hc, hp, modify_append_length_self, eraseIdx_append_length,
      cur.newLen_of_move (by simp [hc])]
  -- a deletion covers no new line, so it has no room to move past a kept run
  case drop.keep =>
    have h₁ : ¬ 0 < upwardRoom old new prev cur := fun h => by
      simpa [hc] using (upRoom_of_pos hp (by simp [hc]) h).add
    by_cases hE : prev.isEmpty = true
    · exact .inr ⟨pre ++ cur :: post, pre.length, upStep_back rfl le_rfl,
        .erase (by simpa [Run.isEmpty] using hE),
        fun f => by simp [slideUp, hc, hp, h₁, hE, eraseIdx_append_length_self]⟩
    · exact .inl fun f => by simp [slideUp, hc, hp, h₁, hE]
  -- an insertion moves past the lines it shares with a kept run; an empty kept run is removed
  case add.keep =>
    by_cases h₁ : 0 < upwardRoom old new prev cur
    · have hroom := upRoom_of_pos hp (by simp [hc]) h₁
      generalize hs : upwardRoom old new prev cur = s at h₁ hroom
      by_cases h₃ : keepsAt (pre ++ prev :: cur :: post) (pre.length + 1 + 1) = true
      · -- the kept run after the change takes the common lines on
        obtain ⟨next, post, rfl, hnext⟩ := exists_keep_after h₃
        have step := @SlideStep.upInto old new pre post prev cur next s hroom hnext
        by_cases h₂ : prev.len - s = 0
        · rw [dropEmpty, if_pos (by simpa using h₂)] at step
          refine .inr ⟨pre ++ cur.shiftLeft s :: next.growLeft s :: post, pre.length,
            upStep_back rfl (by simp [List.countP_cons]), by simpa using step, fun f => ?_⟩
          simp [slideUp, hc, hp, hs, h₁, h₂, h₃, Nat.add_assoc, modify_append_length,
            modify_append_length_self, eraseIdx_append_length_self]
        · rw [dropEmpty, if_neg (by simpa using h₂)] at step
          refine .inr ⟨pre ++ prev.shrinkLeft s :: cur.shiftLeft s :: next.growLeft s :: post,
            pre.length + 1, upStep_stay (by simp; omega) rfl (by simp [List.countP_cons]),
            by simpa using step, fun f => ?_⟩
          simp [slideUp, hc, hp, hs, h₁, h₂, h₃, Nat.add_assoc, modify_append_length,
            modify_append_length_self]
      · -- a new kept run after the change takes them on
        have step := @SlideStep.up old new pre post prev cur s hroom
        rw [← prev.oldEnd_of_move (by simp [hp]), ← cur.newEnd_of_move (by simp [hc])] at step
        by_cases h₂ : prev.len - s = 0
        · rw [dropEmpty, if_pos (by simpa using h₂)] at step
          refine .inr ⟨pre ++ cur.shiftLeft s :: ⟨.keep, prev.oldEnd - s, cur.newEnd - s, s⟩ :: post,
            pre.length, upStep_back rfl (by simp [hc]), by simpa using step, fun f => ?_⟩
          simp [slideUp, hc, hp, hs, h₁, h₂, h₃, Nat.add_assoc, insertIdx_append_length,
            modify_append_length, modify_append_length_self, eraseIdx_append_length_self]
        · rw [dropEmpty, if_neg (by simpa using h₂)] at step
          refine .inr ⟨pre ++ prev.shrinkLeft s :: cur.shiftLeft s ::
            ⟨.keep, prev.oldEnd - s, cur.newEnd - s, s⟩ :: post,
            pre.length + 1, upStep_stay (by simp; omega) rfl (by simp [hc]), by simpa using step,
            fun f => ?_⟩
          simp [slideUp, hc, hp, hs, h₁, h₂, h₃, Nat.add_assoc, insertIdx_append_length,
            modify_append_length, modify_append_length_self]
    · by_cases hE : prev.isEmpty = true
      · exact .inr ⟨pre ++ cur :: post, pre.length, upStep_back rfl le_rfl,
          .erase (by simpa [Run.isEmpty] using hE),
          fun f => by simp [slideUp, hc, hp, h₁, hE, eraseIdx_append_length_self]⟩
      · exact .inl fun f => by simp [slideUp, hc, hp, h₁, hE]

/-- What one call of `slideDown` that goes on guarantees: less is left after the change, and no
run joins those after it. -/
structure DownStep (rs : List Run) (p : Nat) (rs' : List Run) (p' : Nat) : Prop where
  lt : weightAfter rs' p' < weightAfter rs p
  after : ∀ m, changesFrom m rs' (p' + 1) ≤ changesFrom m rs (p + 1)

section DownSteps

variable {pre pre' post : List Run} {cur cur' next next' : Run}

theorem downStep_skip :
    DownStep (pre ++ cur :: next :: post) pre.length (pre' ++ cur' :: post) pre'.length := by
  refine ⟨by simp, fun m => ?_⟩
  simp [List.countP_cons]

theorem downStep_shrink (hlen : next'.len < next.len) (hm : next'.move = next.move) :
    DownStep (pre ++ cur :: next :: post) pre.length (pre' ++ cur' :: next' :: post) pre'.length := by
  refine ⟨?_, fun m => ?_⟩
  · simp
    omega
  · simp [List.countP_cons, hm]

end DownSteps

/-- One call of `slideDown` stops where it is or makes a `DownStep` that is a `SlideStep`, whatever
its fuel. -/
theorem slideDown_step (old new : Array String) (rs : List Run) (p : Nat) :
    (∀ f, slideDown old new (f + 1) rs p = (rs, p)) ∨
      ∃ rs' p', DownStep rs p rs' p' ∧ SlideStep old new rs rs' ∧
        ∀ f, slideDown old new (f + 1) rs p = slideDown old new f rs' p' := by
  cases hcur : rs[p]? with
  | none => exact .inl fun f => by simp [slideDown, hcur]
  | some cur =>
  cases hnext : rs[p + 1]? with
  | none => exact .inl fun f => by simp [slideDown, hcur, hnext]
  | some next =>
  obtain ⟨pre, post, rfl, rfl⟩ := exists_split hcur hnext
  cases hc : cur.move <;> cases hn : next.move
  case keep.keep | keep.drop | keep.add => exact .inl fun f => by simp [slideDown, hc]
  case drop.add | add.drop =>
    have step := @SlideStep.swap old new pre post cur next (by simp [hc]) (by simp [hn])
      (by simp [hc, hn])
    refine .inr ⟨(pre ++ [next]) ++ cur :: post, (pre ++ [next]).length, downStep_skip,
      by simpa using step, fun f => ?_⟩
    simp [slideDown, hc, hn, swapNext_split]
  case drop.drop =>
    refine .inr ⟨pre ++ cur.growRight next.len :: post, pre.length, downStep_skip,
      .merge (by simp [hc]) (by rw [hc, hn]), fun f => ?_⟩
    simp [slideDown, hc, hn, modify_append_length_self, eraseIdx_append_length,
      next.oldLen_of_move (by simp [hn])]
  case add.add =>
    refine .inr ⟨pre ++ cur.growRight next.len :: post, pre.length, downStep_skip,
      .merge (by simp [hc]) (by rw [hc, hn]), fun f => ?_⟩
    simp [slideDown, hc, hn, modify_append_length_self, eraseIdx_append_length,
      next.newLen_of_move (by simp [hn])]
  case drop.keep =>
    have h₁ : ¬ 0 < downwardRoom old new cur next := fun h => by
      simpa [hc] using (downRoom_of_pos (by simp [hc]) hn h).add
    by_cases hE : next.isEmpty = true
    · have step := @SlideStep.erase old new (pre ++ [cur]) post next
        (by simpa [Run.isEmpty] using hE)
      exact .inr ⟨pre ++ cur :: post, pre.length, downStep_skip, by simpa using step,
        fun f => by simp [slideDown, hc, hn, h₁, hE, eraseIdx_append_length]⟩
    · exact .inl fun f => by simp [slideDown, hc, hn, h₁, hE]
  case add.keep =>
    by_cases h₁ : 0 < downwardRoom old new cur next
    · have hroom := downRoom_of_pos (by simp [hc]) hn h₁
      generalize hs : downwardRoom old new cur next = s at h₁ hroom
      by_cases h₃ : (decide (0 < pre.length) &&
          keepsAt (pre ++ cur :: next :: post) (pre.length - 1)) = true
      · -- the kept run before the change takes the common lines on
        obtain ⟨pre, prev, rfl, hprev⟩ := exists_keep_before h₃
        have hk : keepsAt (pre ++ prev :: cur :: next :: post) pre.length = true := by
          simp [keepsAt, hprev]
        have step := @SlideStep.downInto old new pre post prev cur next s hroom hprev
        by_cases h₂ : next.len - s = 0
        · rw [dropEmpty, if_pos (by simpa using h₂)] at step
          refine .inr ⟨(pre ++ [prev.growRight s]) ++ cur.shiftRight s :: post,
            (pre ++ [prev.growRight s]).length, downStep_skip, by simpa using step, fun f => ?_⟩
          simp [slideDown, hc, hn, hs, h₁, h₂, hk, Nat.add_assoc, modify_append_length,
            modify_append_length_self, eraseIdx_append_length]
        · rw [dropEmpty, if_neg (by simpa using h₂)] at step
          refine .inr ⟨(pre ++ [prev.growRight s]) ++ cur.shiftRight s :: next.shrinkRight s :: post,
            (pre ++ [prev.growRight s]).length, downStep_shrink (by simp; omega) rfl,
            by simpa using step, fun f => ?_⟩
          simp [slideDown, hc, hn, hs, h₁, h₂, hk, Nat.add_assoc, modify_append_length,
            modify_append_length_self]
      · -- a new kept run before the change takes them on
        obtain ⟨J, hJ⟩ : ∃ J : Run, J = ⟨.keep, next.oldStart, cur.newStart, s⟩ := ⟨_, rfl⟩
        have step := @SlideStep.down old new pre post cur next s hroom
        rw [← hJ] at step
        by_cases h₂ : next.len - s = 0
        · rw [dropEmpty, if_pos (by simpa using h₂)] at step
          refine .inr ⟨(pre ++ [J]) ++ cur.shiftRight s :: post, (pre ++ [J]).length,
            downStep_skip, by simpa using step, fun f => ?_⟩
          simp [slideDown, hc, hn, hs, hJ, h₁, h₂, h₃, Nat.add_assoc, insertIdx_append_length_self,
            modify_append_length, eraseIdx_append_length]
        · rw [dropEmpty, if_neg (by simpa using h₂)] at step
          refine .inr ⟨(pre ++ [J]) ++ cur.shiftRight s :: next.shrinkRight s :: post,
            (pre ++ [J]).length, downStep_shrink (by simp; omega) rfl, by simpa using step,
            fun f => ?_⟩
          simp [slideDown, hc, hn, hs, hJ, h₁, h₂, h₃, Nat.add_assoc, insertIdx_append_length_self,
            modify_append_length]
    · by_cases hE : next.isEmpty = true
      · have step := @SlideStep.erase old new (pre ++ [cur]) post next
          (by simpa [Run.isEmpty] using hE)
        exact .inr ⟨pre ++ cur :: post, pre.length, downStep_skip, by simpa using step,
          fun f => by simp [slideDown, hc, hn, h₁, hE, eraseIdx_append_length]⟩
      · exact .inl fun f => by simp [slideDown, hc, hn, h₁, hE]

/-! ### The slides take steps -/

theorem slideUp_slides (old new : Array String) :
    ∀ fuel rs p, Relation.ReflTransGen (SlideStep old new) rs (slideUp old new fuel rs p).1
  | 0, _, _ => .refl
  | fuel + 1, rs, p => by
    rcases slideUp_step old new rs p with hstop | ⟨rs', p', -, hstep, hgo⟩
    · rw [hstop]
    · rw [hgo]
      exact .head hstep (slideUp_slides old new fuel rs' p')

theorem slideDown_slides (old new : Array String) :
    ∀ fuel rs p, Relation.ReflTransGen (SlideStep old new) rs (slideDown old new fuel rs p).1
  | 0, _, _ => .refl
  | fuel + 1, rs, p => by
    rcases slideDown_step old new rs p with hstop | ⟨rs', p', -, hstep, hgo⟩
    · rw [hstop]
    · rw [hgo]
      exact .head hstep (slideDown_slides old new fuel rs' p')

theorem slidePass_slides (old new : Array String) (m : Move) (fuel : Nat) :
    ∀ steps rs p, Relation.ReflTransGen (SlideStep old new) rs (slidePass old new m fuel steps rs p)
  | 0, _, _ => .refl
  | steps + 1, rs, p => by
    unfold slidePass
    split
    · exact .refl
    · split
      · rcases hu : slideUp old new fuel rs p with ⟨rs₁, p₁⟩
        dsimp only
        rcases hd : slideDown old new fuel rs₁ p₁ with ⟨rs₂, p₂⟩
        dsimp only
        have up := slideUp_slides old new fuel rs p
        have down := slideDown_slides old new fuel rs₁ p₁
        rw [hu] at up
        rw [hd] at down
        exact up.trans (down.trans (slidePass_slides old new m fuel steps rs₂ (p₂ + 1)))
      · exact slidePass_slides old new m fuel steps rs (p + 1)

/-- Sliding the changes keeps the runs tiling the alignment. -/
theorem Tiled.slideChanges {old new : Array String} {x y : Nat × Nat} {rs : List Run}
    (h : Tiled old new x rs y) : Tiled old new x (slideChanges old new rs) y :=
  (h.slides (slidePass_slides old new .drop _ _ rs 0)).slides (slidePass_slides old new .add _ _ _ 0)

/-! ### Each slide ends before its fuel -/

theorem slideUp_fuel_add (old new : Array String) :
    ∀ f rs p, p + linesBefore rs p < f → ∀ k, slideUp old new (f + k) rs p = slideUp old new f rs p
  | 0, _, _, h, _ => absurd h (Nat.not_lt_zero _)
  | f + 1, rs, p, h, k => by
    rw [Nat.add_right_comm]
    rcases slideUp_step old new rs p with hstop | ⟨rs', p', hstep, -, hgo⟩
    · rw [hstop, hstop]
    · rw [hgo, hgo]
      exact slideUp_fuel_add old new f rs' p' (by have := hstep.lt; omega) k

theorem slideDown_fuel_add (old new : Array String) :
    ∀ f rs p, weightAfter rs p < f → ∀ k, slideDown old new (f + k) rs p = slideDown old new f rs p
  | 0, _, _, h, _ => absurd h (Nat.not_lt_zero _)
  | f + 1, rs, p, h, k => by
    rw [Nat.add_right_comm]
    rcases slideDown_step old new rs p with hstop | ⟨rs', p', hstep, -, hgo⟩
    · rw [hstop, hstop]
    · rw [hgo, hgo]
      exact slideDown_fuel_add old new f rs' p' (by have := hstep.lt; omega) k

/-- Moving a change up keeps its move and adds no run of that move after it. -/
theorem slideUp_change (old new : Array String) :
    ∀ f rs p r, rs[p]? = some r → ∃ r', (slideUp old new f rs p).1[(slideUp old new f rs p).2]? = some r' ∧
      r'.move = r.move ∧
      changesFrom r.move (slideUp old new f rs p).1 ((slideUp old new f rs p).2 + 1) ≤
        changesFrom r.move rs (p + 1)
  | 0, _, _, r, hr => ⟨r, hr, rfl, le_rfl⟩
  | f + 1, rs, p, r, hr => by
    rcases slideUp_step old new rs p with hstop | ⟨rs', p', hstep, -, hgo⟩
    · rw [hstop]
      exact ⟨r, hr, rfl, le_rfl⟩
    · rw [hgo]
      obtain ⟨r₁, hr₁, hm₁⟩ : ∃ r₁, rs'[p']? = some r₁ ∧ r₁.move = r.move := by
        simpa [hr] using hstep.move
      obtain ⟨r', hr', hm', hafter⟩ := slideUp_change old new f rs' p' r₁ hr₁
      refine ⟨r', hr', hm'.trans hm₁, ?_⟩
      rw [← hm₁]
      exact hafter.trans (hm₁ ▸ hstep.after r hr)

theorem slideDown_changes (old new : Array String) (m : Move) :
    ∀ f rs p, changesFrom m (slideDown old new f rs p).1 ((slideDown old new f rs p).2 + 1) ≤
      changesFrom m rs (p + 1)
  | 0, _, _ => le_rfl
  | f + 1, rs, p => by
    rcases slideDown_step old new rs p with hstop | ⟨rs', p', hstep, -, hgo⟩
    · rw [hstop]
    · rw [hgo]
      exact (slideDown_changes old new m f rs' p').trans (hstep.after m)

/-! ### Runs that tile an alignment are few and short -/

theorem Tiles.add_sum_width {a b : Nat} {spans : List (Nat × Nat)} (h : Tiles a spans b)
    (hs : ∀ s ∈ spans, s.1 ≤ s.2) : a + (spans.map fun s => s.2 - s.1).sum = b := by
  induction spans generalizing a with
  | nil => simpa using h
  | cons s spans ih =>
    obtain ⟨rfl, h⟩ := h
    have := ih h fun t ht => hs t (.tail _ ht)
    have := hs s (.head _)
    simp only [List.map_cons, List.sum_cons]
    omega

theorem sum_width_oldSpans (rs : List Run) :
    ((rs.filterMap Run.oldSpan?).map fun s => s.2 - s.1).sum = (rs.map Run.oldLen).sum := by
  induction rs with
  | nil => rfl
  | cons r rs ih => cases hm : r.move <;> simp [Run.oldSpan?, Run.oldLen, hm, ih]

theorem sum_width_newSpans (rs : List Run) :
    ((rs.filterMap Run.newSpan?).map fun s => s.2 - s.1).sum = (rs.map Run.newLen).sum := by
  induction rs with
  | nil => rfl
  | cons r rs ih => cases hm : r.move <;> simp [Run.newSpan?, Run.newLen, hm, ih]

theorem Run.le_of_oldSpan? {r : Run} {s : Nat × Nat} (h : r.oldSpan? = some s) : s.1 ≤ s.2 := by
  unfold Run.oldSpan? at h
  split at h
  · cases h
  · cases h
    simp

theorem Run.le_of_newSpan? {r : Run} {s : Nat × Nat} (h : r.newSpan? = some s) : s.1 ≤ s.2 := by
  unfold Run.newSpan? at h
  split at h
  · cases h
  · cases h
    simp

theorem Run.len_le_oldLen_add_newLen (r : Run) : r.len ≤ r.oldLen + r.newLen := by
  cases hm : r.move <;> simp [Run.oldLen, Run.newLen, hm]

section Tiled

variable {old new : Array String} {x y : Nat × Nat} {rs : List Run}

theorem Aligned.sum_len_le (h : Aligned old new x rs y) :
    (rs.map Run.len).sum ≤ y.1 + y.2 := by
  have hold := h.olds.add_sum_width fun s hs => by
    obtain ⟨r, -, hr⟩ := List.mem_filterMap.1 hs
    exact Run.le_of_oldSpan? hr
  have hnew := h.news.add_sum_width fun s hs => by
    obtain ⟨r, -, hr⟩ := List.mem_filterMap.1 hs
    exact Run.le_of_newSpan? hr
  rw [sum_width_oldSpans] at hold
  rw [sum_width_newSpans] at hnew
  have hle : (rs.map Run.len).sum ≤ (rs.map Run.oldLen).sum + (rs.map Run.newLen).sum := by
    rw [← List.sum_map_add]
    exact List.sum_le_sum fun r _ => r.len_le_oldLen_add_newLen
  omega

theorem Filled.length_le (h : Filled rs) : rs.length ≤ (rs.map Run.len).sum := by
  induction rs with
  | nil => simp
  | cons r rs ih =>
    rw [filled_cons] at h
    simp only [List.length_cons, List.map_cons, List.sum_cons]
    have := ih h.2
    omega

theorem Tiled.length_le (h : Tiled old new x rs y) : rs.length ≤ y.1 + y.2 :=
  h.2.length_le.trans h.1.sum_len_le

theorem Tiled.linesBefore_le (h : Tiled old new x rs y) (p : Nat) : linesBefore rs p ≤ y.1 + y.2 := by
  have := List.sum_take_add_sum_drop (rs.map Run.len) p
  rw [← List.map_take] at this
  have := h.1.sum_len_le
  unfold linesBefore
  omega

theorem Tiled.weightAfter_le (h : Tiled old new x rs y) (p : Nat) :
    weightAfter rs p ≤ 2 * (y.1 + y.2) := by
  have hw : weightAfter rs p = ((rs.drop (p + 1)).map Run.len).sum + (rs.drop (p + 1)).length := by
    unfold weightAfter
    generalize rs.drop (p + 1) = l
    induction l with
    | nil => rfl
    | cons r l ih =>
      simp only [List.map_cons, List.sum_cons, List.length_cons, ih]
      omega
  have hsum := List.sum_take_add_sum_drop (rs.map Run.len) (p + 1)
  rw [← List.map_drop] at hsum
  have hlen : (rs.drop (p + 1)).length ≤ rs.length := by simp
  have := h.1.sum_len_le
  have := h.length_le
  omega

end Tiled

/-! ### Each pass ends before its steps -/

theorem changesFrom_of_getElem? {rs : List Run} {p : Nat} {r : Run} (hr : rs[p]? = some r)
    (m : Move) : changesFrom m rs p = changesFrom m rs (p + 1) + if r.move == m then 1 else 0 := by
  obtain ⟨hp, rfl⟩ := List.getElem?_eq_some_iff.1 hr
  rw [changesFrom, changesFrom, List.drop_eq_getElem_cons hp, List.countP_cons]

/-- A pass over runs that tile an alignment ends within its steps: each step passes the cursor
on, and a step at a change of the pass's move also leaves one run of that move fewer after the
cursor, so the runs of the move after the cursor, each worth more than all runs, and the runs
after the cursor bound the steps. Any more fuel or steps change nothing. -/
theorem slidePass_fuel_add (old new : Array String) (m : Move) {x y : Nat × Nat} :
    ∀ t rs p, Tiled old new x rs y →
      changesFrom m rs p * (y.1 + y.2 + 1) + (rs.length - p) < t →
      ∀ f, 2 * (y.1 + y.2) < f → ∀ k j,
        slidePass old new m (f + k) (t + j) rs p = slidePass old new m f t rs p
  | 0, _, _, _, h, _, _, _, _ => absurd h (Nat.not_lt_zero _)
  | t + 1, rs, p, htiled, ht, f, hf, k, j => by
    rw [Nat.add_right_comm t 1 j]
    unfold slidePass
    cases hr : rs[p]? with
    | none => rfl
    | some r =>
      have hp : p < rs.length := (List.getElem?_eq_some_iff.1 hr).1
      have hcount := changesFrom_of_getElem? hr m
      have hL := htiled.length_le
      dsimp only
      by_cases hm : (r.move == m) = true
      · rw [if_pos hm, if_pos hm]
        rw [if_pos hm] at hcount
        have hrm : r.move = m := by simpa using hm
        rw [slideUp_fuel_add old new f rs p (by have := htiled.linesBefore_le p; omega) k]
        obtain ⟨r', -, -, hup⟩ := slideUp_change old new f rs p r hr
        have htiled₁ := htiled.slides (slideUp_slides old new f rs p)
        rcases hu : slideUp old new f rs p with ⟨rs₁, p₁⟩
        rw [hu] at hup htiled₁
        dsimp only at hup htiled₁ ⊢
        rw [slideDown_fuel_add old new f rs₁ p₁ (by have := htiled₁.weightAfter_le p₁; omega) k]
        have hdown := slideDown_changes old new m f rs₁ p₁
        have htiled₂ := htiled₁.slides (slideDown_slides old new f rs₁ p₁)
        rcases hd : slideDown old new f rs₁ p₁ with ⟨rs₂, p₂⟩
        rw [hd] at hdown htiled₂
        dsimp only at hdown htiled₂ ⊢
        refine slidePass_fuel_add old new m t rs₂ (p₂ + 1) htiled₂ ?_ f hf k j
        -- one run of the move fewer after the cursor outweighs all runs after it
        rw [hrm] at hup
        have hmul : (changesFrom m rs₂ (p₂ + 1) + 1) * (y.1 + y.2 + 1) ≤
            changesFrom m rs p * (y.1 + y.2 + 1) := Nat.mul_le_mul_right _ (by omega)
        rw [Nat.succ_mul] at hmul
        have := htiled₂.length_le
        omega
      · rw [if_neg hm, if_neg hm]
        rw [if_neg hm] at hcount
        refine slidePass_fuel_add old new m t rs (p + 1) htiled ?_ f hf k j
        have hmul : changesFrom m rs (p + 1) * (y.1 + y.2 + 1) ≤
            changesFrom m rs p * (y.1 + y.2 + 1) := Nat.mul_le_mul_right _ (by omega)
        omega

/-! ### The slides end before their fuel -/

section Count

variable {old new : Array String} {rs rs' : List Run} {m : Move}

theorem countP_dropEmpty_le (r : Run) :
    (dropEmpty r).countP (·.move == m) ≤ if r.move == m then 1 else 0 := by
  unfold dropEmpty
  split <;> simp [List.countP_cons]

theorem SlideStep.changes_le (hm : m ≠ .keep) (hs : SlideStep old new rs rs') :
    changesFrom m rs' 0 ≤ changesFrom m rs 0 := by
  have hkeep : (Move.keep == m) = false := beq_false_of_ne (Ne.symm hm)
  cases hs with
  | swap => simp [List.countP_append, List.countP_cons]; omega
  | merge => simp [List.countP_append, List.countP_cons]
  | erase => simp [List.countP_append, List.countP_cons]
  | @up pre post prev cur s hroom =>
    have := countP_dropEmpty_le (m := m) (prev.shrinkLeft s)
    simp [List.countP_append, List.countP_cons, hroom.keep, hkeep] at this ⊢
    omega
  | @upInto pre post prev cur next s hroom hnext =>
    have := countP_dropEmpty_le (m := m) (prev.shrinkLeft s)
    simp [List.countP_append, List.countP_cons, hroom.keep, hkeep, hnext] at this ⊢
    omega
  | @down pre post cur next s hroom =>
    have := countP_dropEmpty_le (m := m) (next.shrinkRight s)
    simp [List.countP_append, List.countP_cons, hroom.keep, hkeep] at this ⊢
    omega
  | @downInto pre post prev cur next s hroom hprev =>
    have := countP_dropEmpty_le (m := m) (next.shrinkRight s)
    simp [List.countP_append, List.countP_cons, hroom.keep, hkeep, hprev] at this ⊢
    omega

theorem changes_le_of_slides (hm : m ≠ .keep) (h : Relation.ReflTransGen (SlideStep old new) rs rs') :
    changesFrom m rs' 0 ≤ changesFrom m rs 0 := by
  induction h with
  | refl => exact le_rfl
  | tail _ hs ih => exact (hs.changes_le hm).trans ih

end Count

/-- The slides never run out of fuel on runs that tile an alignment of `old` with `new`: from
the bound `slideChanges` gives them on, any fuel and any steps end both passes the same. -/
theorem slideChanges_eq_of_fuel_le {old new : Array String} {x : Nat × Nat} {rs : List Run}
    (h : Tiled old new x rs (old.size, new.size)) {f₁ t₁ f₂ t₂ : Nat}
    (hf₁ : (old.size + new.size + rs.length + 2) * (rs.length + 2) * 4 ≤ f₁)
    (ht₁ : (old.size + new.size + rs.length + 2) * (rs.length + 2) * 4 ≤ t₁)
    (hf₂ : (old.size + new.size + rs.length + 2) * (rs.length + 2) * 4 ≤ f₂)
    (ht₂ : (old.size + new.size + rs.length + 2) * (rs.length + 2) * 4 ≤ t₂) :
    slidePass old new .add f₂ t₂ (slidePass old new .drop f₁ t₁ rs 0) 0 = slideChanges old new rs := by
  obtain ⟨k₁, rfl⟩ := Nat.exists_eq_add_of_le hf₁
  obtain ⟨j₁, rfl⟩ := Nat.exists_eq_add_of_le ht₁
  obtain ⟨k₂, rfl⟩ := Nat.exists_eq_add_of_le hf₂
  obtain ⟨j₂, rfl⟩ := Nat.exists_eq_add_of_le ht₂
  set F := (old.size + new.size + rs.length + 2) * (rs.length + 2) * 4 with hF
  have hfuel : 2 * (old.size + new.size) < F := by
    rw [hF]
    nlinarith
  -- each pass's measure: at most `rs.length` runs of its move, each worth all the runs
  have hdrops : changesFrom .drop rs 0 ≤ rs.length := List.countP_le_length
  have hadds : changesFrom .add (slidePass old new .drop F F rs 0) 0 ≤ rs.length :=
    (changes_le_of_slides (by decide) (slidePass_slides old new .drop F F rs 0)).trans
      List.countP_le_length
  have htiled := h.slides (slidePass_slides old new .drop F F rs 0)
  have hlen := htiled.length_le
  rw [slidePass_fuel_add old new .drop F rs 0 h ?_ F hfuel k₁ j₁,
    slidePass_fuel_add old new .add F _ 0 htiled ?_ F hfuel k₂ j₂]
  · rfl
  · simp only [Nat.sub_zero] at hlen ⊢
    rw [hF]
    nlinarith [Nat.mul_le_mul_right (old.size + new.size + 1) hadds]
  · simp only [Nat.sub_zero]
    rw [hF]
    nlinarith [Nat.mul_le_mul_right (old.size + new.size + 1) hdrops]

end Linewise.Align
