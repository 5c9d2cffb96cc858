import Linewise.Proofs.Align.Runs
/-! Dividing windows at middle snakes gives a shortest alignment: a point on the diagonal of a
path's start or end is reached with no more edits than the whole path, so stripping common lines
costs nothing and the middle snake splits some shortest path. Each division is proper, so the
depth is never exhausted, and the runs keep as many lines as any path allows. -/
namespace Linewise.Align

namespace Path

variable {n m : Nat} {same same' : Nat → Nat → Prop} {p q r : Nat × Nat} {e : Nat}

theorem edits_le (h : Path n m same p e q) : p.1 + p.2 + e ≤ q.1 + q.2 := by
  induction h with
  | refl => omega
  | right _ ih => dsimp only at ih ⊢; omega
  | down _ ih => dsimp only at ih ⊢; omega
  | diag _ _ _ _ ih => dsimp only at ih ⊢; omega

theorem diagonal_le (h : Path n m same p e q) :
    (q.1 : Int) - q.2 - (p.1 - p.2) ≤ e ∧ (p.1 : Int) - p.2 - (q.1 - q.2) ≤ e := by
  obtain ⟨i, hi, hq⟩ := h.diagonal
  omega

theorem congr (hs : ∀ x y, x < n → y < m → same x y → same' x y) (h : Path n m same p e q) :
    Path n m same' p e q := by
  induction h with
  | refl => exact .refl
  | right _ ih => exact ih.right
  | down _ ih => exact ih.down
  | diag _ hx hy h ih => exact ih.diag hx hy (hs _ _ hx hy h)

theorem rebound {n' m' : Nat} (h : Path n m same p e q) (hn : q.1 ≤ n') (hm : q.2 ≤ m') :
    Path n' m' same p e q := by
  induction h with
  | refl => exact .refl
  | right _ ih => exact (ih (by dsimp only at hn ⊢; omega) hm).right
  | down _ ih => exact (ih hn (by dsimp only at hm ⊢; omega)).down
  | diag _ hx hy h ih =>
    exact (ih (by dsimp only at hn ⊢; omega) (by dsimp only at hm ⊢; omega)).diag
      (by dsimp only at hn; omega) (by dsimp only at hm; omega) h

theorem shift {a b : Nat} (h : Path n m (fun x y => same (a + x) (b + y)) p e q) :
    Path (a + n) (b + m) same (a + p.1, b + p.2) e (a + q.1, b + q.2) := by
  induction h with
  | refl => exact .refl
  | @right e x y _ ih =>
    rw [show a + (x + 1) = a + x + 1 by omega]
    exact ih.right
  | @down e x y _ ih =>
    rw [show b + (y + 1) = b + y + 1 by omega]
    exact ih.down
  | @diag e x y _ hx hy h ih =>
    rw [show a + (x + 1) = a + x + 1 by omega, show b + (y + 1) = b + y + 1 by omega]
    exact ih.diag (by omega) (by omega) h

theorem unshift {a b : Nat} (h : Path n m same p e q) (ha : a ≤ p.1) (hb : b ≤ p.2) :
    Path (n - a) (m - b) (fun x y => same (a + x) (b + y)) (p.1 - a, p.2 - b) e (q.1 - a, q.2 - b) := by
  induction h with
  | refl => exact .refl
  | @right e x y h ih =>
    have hx := h.le.1
    rw [show x + 1 - a = x - a + 1 by dsimp only at hx; omega]
    exact ih.right
  | @down e x y h ih =>
    have hy := h.le.2
    rw [show y + 1 - b = y - b + 1 by dsimp only at hy; omega]
    exact ih.down
  | @diag e x y h hx hy hs ih =>
    have hle := h.le
    dsimp only at hle
    rw [show x + 1 - a = x - a + 1 by omega, show y + 1 - b = y - b + 1 by omega]
    refine ih.diag (by omega) (by omega) ?_
    rwa [Nat.add_sub_cancel' (by omega), Nat.add_sub_cancel' (by omega)]

theorem same_start (h : Path n m same p e q) : e = 0 → q ≠ p → same p.1 p.2 := by
  induction h with
  | refl => exact fun _ hne => absurd rfl hne
  | right _ _ => exact fun he => absurd he (Nat.succ_ne_zero _)
  | down _ _ => exact fun he => absurd he (Nat.succ_ne_zero _)
  | @diag e x y h _ _ hs ih =>
    intro he _
    by_cases hp : (x, y) = p
    · rw [← hp]
      exact hs
    · exact ih he (Ne.symm fun h' => hp h'.symm)

/-- A point between a path's ends is reached with at most the path's edits, and more only as far
as it lies off the diagonal of the path's end. -/
theorem toward_start (h : Path n m same p e r) {q : Nat × Nat} (hpq : p.1 ≤ q.1 ∧ p.2 ≤ q.2)
    (hqr : q.1 ≤ r.1 ∧ q.2 ≤ r.2) :
    ∃ e', Path n m same p e' q ∧
      e' + 2 * min (r.1 - q.1) (r.2 - q.2) ≤ e + (r.1 - q.1) + (r.2 - q.2) := by
  obtain ⟨a, b⟩ := q
  dsimp only at hpq hqr ⊢
  induction h generalizing a b with
  | refl =>
    obtain rfl : (a, b) = p := Prod.ext (by omega) (by omega)
    exact ⟨0, .refl, by omega⟩
  | @right e x y h ih =>
    by_cases ha : a ≤ x
    · obtain ⟨e', hp, he'⟩ := ih a b hpq ⟨ha, hqr.2⟩
      exact ⟨e', hp, by omega⟩
    · -- the point lies on the last column: reach the point left of it, then step right
      obtain rfl : a = x + 1 := by omega
      obtain ⟨e', hp, he'⟩ := ih x b ⟨h.le.1, hpq.2⟩ ⟨le_rfl, hqr.2⟩
      exact ⟨e' + 1, hp.right, by omega⟩
  | @down e x y h ih =>
    by_cases hb : b ≤ y
    · obtain ⟨e', hp, he'⟩ := ih a b hpq ⟨hqr.1, hb⟩
      exact ⟨e', hp, by omega⟩
    · obtain rfl : b = y + 1 := by omega
      obtain ⟨e', hp, he'⟩ := ih a y ⟨hpq.1, h.le.2⟩ ⟨hqr.1, le_rfl⟩
      exact ⟨e' + 1, hp.down, by omega⟩
  | @diag e x y h hx hy hs ih =>
    by_cases ha : a ≤ x <;> by_cases hb : b ≤ y
    · obtain ⟨e', hp, he'⟩ := ih a b hpq ⟨ha, hb⟩
      exact ⟨e', hp, by omega⟩
    · obtain rfl : b = y + 1 := by omega
      obtain ⟨e', hp, he'⟩ := ih a y ⟨hpq.1, h.le.2⟩ ⟨ha, le_rfl⟩
      exact ⟨e' + 1, hp.down, by omega⟩
    · obtain rfl : a = x + 1 := by omega
      obtain ⟨e', hp, he'⟩ := ih x b ⟨h.le.1, hpq.2⟩ ⟨le_rfl, hb⟩
      exact ⟨e' + 1, hp.right, by omega⟩
    · obtain rfl : a = x + 1 := by omega
      obtain rfl : b = y + 1 := by omega
      exact ⟨e, h.diag hx hy hs, by omega⟩

/-- From a point between a path's ends, the end is reached with at most the path's edits, and
more only as far as the point lies off the diagonal of the path's start. -/
theorem toward_end (h : Path n m same p e r) {q : Nat × Nat} (hpq : p.1 ≤ q.1 ∧ p.2 ≤ q.2)
    (hqr : q.1 ≤ r.1 ∧ q.2 ≤ r.2) :
    ∃ e', Path n m same q e' r ∧
      e' + 2 * min (q.1 - p.1) (q.2 - p.2) ≤ e + (q.1 - p.1) + (q.2 - p.2) := by
  obtain ⟨a, b⟩ := q
  dsimp only at hpq hqr ⊢
  induction h generalizing a b with
  | refl =>
    obtain rfl : (a, b) = p := Prod.ext (by omega) (by omega)
    exact ⟨0, .refl, by omega⟩
  | @right e x y h ih =>
    have hd := h.diagonal_le
    have hle := h.le
    dsimp only at hd hle
    by_cases ha : a ≤ x
    · obtain ⟨e', hp, he'⟩ := ih a b hpq ⟨ha, hqr.2⟩
      exact ⟨e' + 1, hp.right, by omega⟩
    · -- the point lies on the last column: go down it to the end
      obtain rfl : a = x + 1 := by omega
      have hp := (Path.refl : Path n m same (x + 1, b) 0 _).extend le_rfl hqr.2
      exact ⟨_, hp, by omega⟩
  | @down e x y h ih =>
    have hd := h.diagonal_le
    have hle := h.le
    dsimp only at hd hle
    by_cases hb : b ≤ y
    · obtain ⟨e', hp, he'⟩ := ih a b hpq ⟨hqr.1, hb⟩
      exact ⟨e' + 1, hp.down, by omega⟩
    · obtain rfl : b = y + 1 := by omega
      have hp := (Path.refl : Path n m same (a, y + 1) 0 _).extend hqr.1 le_rfl
      exact ⟨_, hp, by omega⟩
  | @diag e x y h hx hy hs ih =>
    have hd := h.diagonal_le
    have hle := h.le
    dsimp only at hd hle
    by_cases ha : a ≤ x <;> by_cases hb : b ≤ y
    · obtain ⟨e', hp, he'⟩ := ih a b hpq ⟨ha, hb⟩
      exact ⟨e', hp.diag hx hy hs, by omega⟩
    · obtain rfl : b = y + 1 := by omega
      have hp := (Path.refl : Path n m same (a, y + 1) 0 _).extend hqr.1 le_rfl
      exact ⟨_, hp, by omega⟩
    · obtain rfl : a = x + 1 := by omega
      have hp := (Path.refl : Path n m same (x + 1, b) 0 _).extend le_rfl hqr.2
      exact ⟨_, hp, by omega⟩
    · obtain rfl : a = x + 1 := by omega
      obtain rfl : b = y + 1 := by omega
      exact ⟨0, .refl, by omega⟩

theorem reversed_reversed {a b : Nat} (ha : a < n) (hb : b < m) :
    reversed n m (reversed n m same) a b ↔ same a b := by
  unfold reversed
  rw [show n - 1 - (n - 1 - a) = a by omega, show m - 1 - (m - 1 - b) = b by omega]

theorem unreverse (h : Path n m (reversed n m same) (0, 0) e q) (hq : q.1 ≤ n ∧ q.2 ≤ m) :
    Path n m same (n - q.1, m - q.2) e (n, m) := by
  have h' := (h.reverse hq).congr fun _ _ ha hb hs => (reversed_reversed ha hb).1 hs
  simpa using h'

end Path

theorem mem_diagonals_of {d : Nat} {j : Int} (hj : j.natAbs ≤ d) (hpar : ((d : Int) - j) % 2 = 0) :
    j ∈ diagonals d :=
  mem_diagonals.2 ⟨(((d : Int) - j) / 2).toNat, by omega, by omega⟩

namespace Window

/-- A window whose common first and last lines were taken off: both sides hold a line, the first
lines differ and so do the last ones. -/
structure Stripped (w : Window) : Prop where
  n_pos : 0 < w.n
  m_pos : 0 < w.m
  first : ¬ w.sameAt 0 0
  last : ¬ w.sameAt (w.n - 1) (w.m - 1)

/-- A point strictly inside the window that some shortest path through the window passes. -/
structure Splits (w : Window) (u v : Nat) : Prop where
  le_n : u ≤ w.n
  le_m : v ≤ w.m
  shortest : ∃ e₁ e₂, Path w.n w.m w.sameAt (0, 0) e₁ (u, v) ∧
    Path w.n w.m w.sameAt (u, v) e₂ (w.n, w.m) ∧
    ∀ e, Path w.n w.m w.sameAt (0, 0) e (w.n, w.m) → e₁ + e₂ ≤ e
  ne_start : (u, v) ≠ (0, 0)
  ne_end : (u, v) ≠ (w.n, w.m)

theorem Stripped.two_le {w : Window} (hw : w.Stripped) {e : Nat}
    (hp : Path w.n w.m w.sameAt (0, 0) e (w.n, w.m)) : 2 ≤ e := by
  have hn := hw.n_pos
  have hm := hw.m_pos
  generalize hq : (w.n, w.m) = q at hp
  cases hp with
  | refl =>
    obtain ⟨h₁, -⟩ := Prod.mk.inj hq
    omega
  | @right e' x y h =>
    obtain ⟨-, hy⟩ := Prod.mk.inj hq
    have he' : e' ≠ 0 := fun he =>
      hw.first (h.same_start he fun h' => by obtain ⟨-, h₂⟩ := Prod.mk.inj h'; omega)
    omega
  | @down e' x y h =>
    obtain ⟨hx, -⟩ := Prod.mk.inj hq
    have he' : e' ≠ 0 := fun he =>
      hw.first (h.same_start he fun h' => by obtain ⟨h₁, -⟩ := Prod.mk.inj h'; omega)
    omega
  | @diag e' x y h hx hy hs =>
    obtain ⟨h₁, h₂⟩ := Prod.mk.inj hq
    exact absurd (by rwa [show w.n - 1 = x by omega, show w.m - 1 = y by omega]) hw.last

end Window

section Answers

variable {w : Window} {reach d : Nat} {front back front' : Frontier} {p : Nat × Nat}

theorem Searching.lt_edits (hs : Searching w reach d front back) (hw : w.Stripped) {e : Nat}
    (hp : Path w.n w.m w.sameAt (0, 0) e (w.n, w.m)) : d < e := by
  have h₁ := hs.far e hp
  have h₂ := hw.two_le hp
  omega

theorem forwardRound_ready (hs : Searching w reach d front back) (hd : d < reach)
    (hf : forwardRound w d back front (diagonals d) = .inl front') :
    ∀ k ∈ diagonals d, FurthestAt w.n w.m w.sameAt d k (front'.get k) := by
  rw [forwardRound_eq_sweep] at hf
  obtain ⟨-, -, -, fget⟩ :=
    sweep_inl (readsNeighbours_advance _ _ _ _) (sweepable_diagonals hd hs.front_shape) hf
  intro k hk
  obtain ⟨i, _, rfl⟩ := mem_diagonals.1 hk
  rw [fget _ (by have := hs.front_shape; omega), if_pos hk]
  exact advance_furthest (forwardSnake_isSnake' w) hs.front_ready hk

/-- A forward answer splits a shortest path. It is the entry of a forward path of `d` edits, and
from it a backward path of `d - 1` edits is reached: along its own common run when the backward
path ends ahead on the diagonal, and else by the diagonal's monotone cost. Together they make
`2 d - 1` edits, which no path through the window undercuts. -/
theorem forward_answer_splits (hw : w.Stripped) (hs : Searching w reach d front back)
    (hd : d < reach) (h : forwardRound w d back front (diagonals d) = .inr p) :
    ∃ u v, p = (w.oldStart + u, w.newStart + v) ∧ w.Splits u v := by
  have hin := forward_answer_inside hs hd h
  rw [forwardRound_eq_sweep] at h
  obtain ⟨k, hk, hc, rfl⟩ := sweep_inr (readsNeighbours_advance _ _ _ _)
    (fun _ _ _ _ h₁ h₂ => by simp only [entry_congr h₁ h₂]) (sweepable_diagonals hd hs.front_shape) h
  simp only [Bool.and_eq_true, decide_eq_true_eq, advance, neg_sub] at hc
  obtain ⟨⟨hodd, hδ⟩, hmeet⟩ := hc
  have hodd' : w.delta % 2 = 1 := by simpa [Window.odd] using hodd
  obtain ⟨⟨y0, hx0, hp0⟩, -, -⟩ := entry_spec hs.front_ready hk
  generalize entry front d k = x0 at *
  have hy : ((x0 : Int) - k).toNat = y0 := by omega
  simp only [hy] at hin hmeet ⊢
  -- the check asks for a backward round before this one, so this is not the first round
  obtain ⟨d', rfl⟩ : ∃ d', d = d' + 1 := ⟨d - 1, by omega⟩
  obtain ⟨i, hi, hki⟩ := mem_diagonals.1 hk
  have hj : w.delta - k ∈ diagonals d' := mem_diagonals_of (by omega) (by omega)
  obtain ⟨⟨yb, hB, hpb⟩, -⟩ := hs.back_ready _ hj
  generalize back.get (w.delta - k) = B at *
  have hδn : w.delta = (w.n : Int) - w.m := rfl
  -- a path on from the answer to the end with at most `d'` edits
  obtain ⟨e₂, hpath, he₂⟩ : ∃ e₂, Path w.n w.m w.sameAt (x0, y0) e₂ (w.n, w.m) ∧ e₂ ≤ d' := by
    by_cases hcase : w.n ≤ x0 + B
    · obtain ⟨e₂, hp₂, he₂⟩ := hpb.toward_start (q := (w.n - x0, w.m - y0)) ⟨Nat.zero_le _,
        Nat.zero_le _⟩ ⟨by dsimp only; omega, by dsimp only; omega⟩
      have hp₂' := hp₂.unreverse ⟨Nat.sub_le _ _, Nat.sub_le _ _⟩
      rw [show w.n - (w.n - x0) = x0 by omega, show w.m - (w.m - y0) = y0 by omega] at hp₂'
      exact ⟨e₂, hp₂', by dsimp only at he₂; omega⟩
    · -- the backward path ends ahead on the answer's common run
      split_ifs at hmeet with hcond
      · have hsn := w.forwardSnake_isSnake (show x0 < w.n by omega) (show y0 < w.m by omega)
        have hpb' := hpb.unreverse ⟨by omega, by omega⟩
        have hdiag : Path w.n w.m w.sameAt (x0, y0) 0 (x0 + (w.n - B - x0), y0 + (w.n - B - x0)) :=
          Path.refl.diags _ fun i hi => ⟨by have := hsn.fits; omega, by have := hsn.fits; omega,
            hsn.along i (by omega)⟩
        rw [show x0 + (w.n - B - x0) = w.n - B by omega,
          show y0 + (w.n - B - x0) = w.m - yb by omega] at hdiag
        exact ⟨0 + d', hdiag.trans hpb', by omega⟩
      · omega
  refine ⟨x0, y0, by rw [Nat.add_comm x0, Nat.add_comm y0], ⟨by omega, by omega,
    ⟨d' + 1, e₂, hp0, hpath, fun e hp => by have := hs.far e hp; omega⟩, ?_, ?_⟩⟩
  · have := hp0.edits_le
    intro h0
    obtain ⟨rfl, rfl⟩ := Prod.mk.inj h0
    dsimp only at this
    omega
  · intro hend
    obtain ⟨rfl, rfl⟩ := Prod.mk.inj hend
    have := hs.lt_edits hw hp0
    omega

/-- A backward answer splits a shortest path. It mirrors the furthest point of a backward path of
`d` edits, and the forward path of `d` edits on the same diagonal gets at least as far, so the
point is reached forward with at most `d` edits. The end lies on an even diagonal here, so every
path through the window makes at least `2 d` edits. -/
theorem backward_answer_splits (hw : w.Stripped) (hs : Searching w reach d front back)
    (hd : d < reach) (hf : forwardRound w d back front (diagonals d) = .inl front')
    (h : backwardRound w d front' back (diagonals d) = .inr p) :
    ∃ u v, p = (w.oldStart + u, w.newStart + v) ∧ w.Splits u v := by
  have fready := forwardRound_ready hs hd hf
  rw [backwardRound_eq_sweep] at h
  obtain ⟨k, hk, hc, rfl⟩ := sweep_inr (readsNeighbours_advance _ _ _ _)
    (fun _ _ _ _ _ _ => rfl) (sweepable_diagonals hd hs.back_shape) h
  simp only [Bool.and_eq_true, decide_eq_true_eq, Bool.not_eq_true', neg_sub] at hc
  obtain ⟨⟨heven, hδ⟩, hmeet⟩ := hc
  have heven' : ∀ e, Path w.n w.m w.sameAt (0, 0) e (w.n, w.m) → e % 2 = 0 := by
    intro e hp
    have hodd := Window.odd_eq_of_path hp
    rw [heven] at hodd
    by_contra hne
    rw [show e % 2 = 1 by omega] at hodd
    exact absurd hodd (by decide)
  have hδ2 : w.delta % 2 = 0 := by
    simp only [Window.odd, beq_eq_false_iff_ne] at heven
    omega
  have hδn : w.delta = (w.n : Int) - w.m := rfl
  obtain ⟨⟨y, hy, hpb⟩, -⟩ := advance_furthest (backwardSnake_isSnake' w) hs.back_ready hk
  generalize advance w.n w.m w.backwardSnake back d k = x at *
  -- a backward point this close to the end's diagonal lies inside the window, or the end would
  -- be reached with fewer edits than the rounds before allow
  have hinside : x ≤ w.n ∧ y ≤ w.m := by
    obtain ⟨e', hend, he'⟩ := hpb.exists_to_end
    have hend' := hend.unreverse ⟨le_rfl, le_rfl⟩
    rw [Nat.sub_self, Nat.sub_self] at hend'
    have := hs.far e' hend'
    dsimp only at he'
    omega
  have hpb' := hpb.unreverse hinside
  -- the forward path of the same round on the mirrored diagonal reaches past the point
  obtain ⟨i, hi, hki⟩ := mem_diagonals.1 hk
  have hj : w.delta - k ∈ diagonals d := mem_diagonals_of (by omega) (by omega)
  obtain ⟨⟨yf, hF, hpf⟩, -⟩ := fready _ hj
  generalize front'.get (w.delta - k) = F at *
  obtain ⟨e₁, hp₁, he₁⟩ := hpf.toward_start (q := (w.n - x, w.m - y)) ⟨Nat.zero_le _,
    Nat.zero_le _⟩ ⟨by dsimp only; omega, by dsimp only; omega⟩
  have hmin : F - (w.n - x) = yf - (w.m - y) := by omega
  dsimp only at he₁
  rw [hmin, Nat.min_self] at he₁
  have hy' : ((w.m : Int) - ((x : Int) - k)).toNat = w.m - y := by omega
  refine ⟨w.n - x, w.m - y, by rw [hy', Nat.add_comm _ w.oldStart, Nat.add_comm _ w.newStart],
    ⟨Nat.sub_le _ _, Nat.sub_le _ _, ⟨e₁, d, hp₁, hpb', fun e hp => ?_⟩, ?_, ?_⟩⟩
  · have := hs.far e hp
    have := heven' e hp
    omega
  · intro h0
    obtain ⟨h₁, h₂⟩ := Prod.mk.inj h0
    rw [show x = w.n by omega, show y = w.m by omega, Nat.sub_self, Nat.sub_self] at hpb'
    have := hs.lt_edits hw hpb'
    omega
  · intro hend
    obtain ⟨h₁, h₂⟩ := Prod.mk.inj hend
    rw [h₁, h₂] at hp₁
    have := hs.lt_edits hw hp₁
    omega

end Answers

/-- With rounds enough to pass half the window's length, the search answers, and its answer
splits a shortest path: going right and then down crosses the window with `n + m` edits, so the
rounds cannot all pass. -/
theorem snakeSearch_splits {w : Window} (hw : w.Stripped) {reach : Nat}
    (hreach : w.n + w.m + 1 < 2 * reach) : ∀ {rounds d : Nat} {front back : Frontier}, Searching w reach d front back → d + rounds = reach →
      ∃ u v, snakeSearch w d rounds front back = some (w.oldStart + u, w.newStart + v) ∧
        w.Splits u v
  | 0, d, _, _, hs, hr => by
    have hp := (Path.refl : Path w.n w.m w.sameAt (0, 0) 0 _).extend (Nat.zero_le w.n)
      (Nat.zero_le w.m)
    have := hs.far _ hp
    omega
  | rounds + 1, d, front, back, hs, hr => by
    rw [snakeSearch]
    split
    · rename_i p hf
      obtain ⟨u, v, rfl, hsp⟩ := forward_answer_splits hw hs (by omega) hf
      exact ⟨u, v, rfl, hsp⟩
    · rename_i front' hf
      split
      · rename_i p hb
        obtain ⟨u, v, rfl, hsp⟩ := backward_answer_splits hw hs (by omega) hf hb
        exact ⟨u, v, rfl, hsp⟩
      · rename_i back' hb
        exact snakeSearch_splits hw hreach (searching_succ hs (by omega) hf hb) (by omega)

/-- The middle snake of a stripped window exists and splits a shortest path through it. -/
theorem middleSnake_splits {w : Window} (hw : w.Stripped) :
    ∃ u v, middleSnake w = some (w.oldStart + u, w.newStart + v) ∧ w.Splits u v := by
  unfold middleSnake
  exact snakeSearch_splits hw (by unfold maxDistance; omega) (searching_start w _) (Nat.zero_add _)

/-! ### Division -/

/-- The diagonal steps of the edit graph of two line sequences: line `x` of the old one is line
`y` of the new one. -/
def sameLine (old new : Array String) (x y : Nat) : Prop := old[x]? = new[y]?

/-- The number of lines runs keep. -/
def keptLen : List Run → Nat
  | [] => 0
  | r :: rs => (if r.move = .keep then r.len else 0) + keptLen rs

@[simp] theorem keptLen_nil : keptLen [] = 0 := rfl

@[simp] theorem keptLen_cons (r : Run) (rs : List Run) :
    keptLen (r :: rs) = (if r.move = .keep then r.len else 0) + keptLen rs := rfl

@[simp] theorem keptLen_append (xs ys : List Run) :
    keptLen (xs ++ ys) = keptLen xs + keptLen ys := by
  induction xs with
  | nil => simp
  | cons r xs ih => simp [ih, Nat.add_assoc]

@[simp] theorem keptLen_common (o n l : Nat) :
    keptLen (if 0 < l then [⟨.keep, o, n, l⟩] else []) = l := by
  split
  · simp
  · simp only [keptLen_nil]
    omega

theorem commonPrefix_stop {a b : Array String} {i i' j j' : Nat}
    (h : commonPrefix a i i' b j j' < min (i' - i) (j' - j)) :
    a[i + commonPrefix a i i' b j j']? ≠ b[j + commonPrefix a i i' b j j']? :=
  prefixMatch_stop h

theorem commonSuffix_stop {a b : Array String} {i i' j j' : Nat}
    (h : commonSuffix a i i' b j j' < min (i' - i) (j' - j)) :
    a[i' - (commonSuffix a i i' b j j' + 1)]? ≠ b[j' - (commonSuffix a i i' b j j' + 1)]? :=
  suffixMatch_stop h

theorem Path.strip {same : Nat → Nat → Prop} {os oe ns ne P S e : Nat}
    (h : Path oe ne same (os, ns) e (oe, ne)) (hP : P ≤ oe - os ∧ P ≤ ne - ns)
    (hS : S ≤ oe - (os + P) ∧ S ≤ ne - (ns + P)) :
    ∃ e', Path (oe - S) (ne - S) same (os + P, ns + P) e' (oe - S, ne - S) ∧ e' ≤ e := by
  have hle := h.le
  dsimp only at hle
  obtain ⟨e₁, h₁, he₁⟩ := h.toward_end (q := (os + P, ns + P))
    ⟨by dsimp only; omega, by dsimp only; omega⟩ ⟨by dsimp only; omega, by dsimp only; omega⟩
  obtain ⟨e₂, h₂, he₂⟩ := h₁.toward_start (q := (oe - S, ne - S))
    ⟨by dsimp only; omega, by dsimp only; omega⟩ ⟨by dsimp only; omega, by dsimp only; omega⟩
  dsimp only at he₁ he₂
  rw [show os + P - os = P by omega, show ns + P - ns = P by omega, Nat.min_self] at he₁
  rw [show oe - (oe - S) = S by omega, show ne - (ne - S) = S by omega, Nat.min_self] at he₂
  exact ⟨e₂, h₂.rebound le_rfl le_rfl, by omega⟩

section Divide

variable {old new : Array String}

theorem Path.toWindow {os oe ns ne e : Nat} (h : Path oe ne (sameLine old new) (os, ns) e (oe, ne)) :
    Path (oe - os) (ne - ns) (Window.sameAt ⟨old, new, os, ns, oe - os, ne - ns⟩) (0, 0) e
      (oe - os, ne - ns) := by
  have h' := h.unshift (a := os) (b := ns) le_rfl le_rfl
  rw [Nat.sub_self, Nat.sub_self] at h'
  exact h'

theorem Path.ofWindow {os ns n m e : Nat} {p q : Nat × Nat}
    (h : Path n m (Window.sameAt ⟨old, new, os, ns, n, m⟩) p e q) :
    Path (os + q.1) (ns + q.2) (sameLine old new) (os + p.1, ns + p.2) e (os + q.1, ns + q.2) :=
  (h.rebound le_rfl le_rfl :
    Path q.1 q.2 (fun x y => sameLine old new (os + x) (ns + y)) p e q).shift

theorem stripped_of_common {os oe ns ne P S : Nat} (hP : commonPrefix old os oe new ns ne = P)
    (hS : commonSuffix old (os + P) oe new (ns + P) ne = S) (ho : os + P < oe - S)
    (hn : ns + P < ne - S) :
    Window.Stripped ⟨old, new, os + P, ns + P, oe - S - (os + P), ne - S - (ns + P)⟩ where
  n_pos := by dsimp only; omega
  m_pos := by dsimp only; omega
  first := by
    have h := @commonPrefix_stop old new os oe ns ne (by rw [hP]; exact lt_min (by omega) (by omega))
    rw [hP] at h
    simpa [Window.sameAt] using h
  last := by
    have h := @commonSuffix_stop old new (os + P) oe (ns + P) ne
      (by rw [hS]; exact lt_min (by omega) (by omega))
    rw [hS] at h
    unfold Window.sameAt
    dsimp only
    rwa [show os + P + (oe - S - (os + P) - 1) = oe - (S + 1) by omega,
      show ns + P + (ne - S - (ns + P) - 1) = ne - (S + 1) by omega]

/-- Dividing a window keeps as many lines as any path across it allows: a path with `e` edits
across a window of `n + m` lines takes at most `(n + m - e) / 2` diagonal steps. The depth
allowed exceeds the window's size and every division is proper, so it is never used up. -/
theorem divide_kept (old new : Array String) :
    ∀ fuel {os oe ns ne e : Nat}, (oe - os) + (ne - ns) < fuel →
      Path oe ne (sameLine old new) (os, ns) e (oe, ne) →
      (oe - os) + (ne - ns) ≤ 2 * keptLen (divide old new fuel os oe ns ne) + e := by
  intro fuel
  induction fuel with
  | zero => intro os oe ns ne e hsize; omega
  | succ fuel ih =>
    intro os oe ns ne e hsize hp
    have hle := hp.le
    dsimp only at hle
    rw [divide]
    obtain ⟨hp₁, hp₂, -⟩ := commonPrefix_spec old os oe new ns ne
    generalize hP : commonPrefix old os oe new ns ne = P at *
    obtain ⟨hs₁, hs₂, -⟩ := commonSuffix_spec old (os + P) oe new (ns + P) ne
    generalize hS : commonSuffix old (os + P) oe new (ns + P) ne = S at *
    obtain ⟨e', hp', he'⟩ := hp.strip ⟨hp₁, hp₂⟩ ⟨hs₁, hs₂⟩
    have hd := hp'.diagonal_le
    dsimp only at hd
    simp only [keptLen_append, keptLen_common]
    split_ifs with h₁ h₂ h₃ <;> simp only [Bool.and_eq_true, decide_eq_true_eq] at h₁
    · simp only [keptLen_nil]
      omega
    · simp [keptLen]
      omega
    · simp [keptLen]
      omega
    · simp only [not_le] at h₂ h₃
      obtain ⟨u, v, hmid, hu, hv, ⟨e₁, e₂, hq₁, hq₂, hmin⟩, hne₁, hne₂⟩ :=
        middleSnake_splits (stripped_of_common hP hS (by omega) (by omega))
      dsimp only at hmid hu hv hq₁ hq₂ hmin hne₂
      rw [hmid]
      have hne₁' : 0 < u + v := by
        by_contra h0
        exact hne₁ (Prod.ext (by dsimp only; omega) (by dsimp only; omega))
      have hne₂' : u + v < (oe - S - (os + P)) + (ne - S - (ns + P)) := by
        by_contra h0
        exact hne₂ (Prod.ext (by dsimp only; omega) (by dsimp only; omega))
      -- the two halves, moved back to the whole graph
      have hq₁' := hq₁.ofWindow
      have hq₂' := hq₂.ofWindow
      dsimp only at hq₁' hq₂'
      rw [Nat.add_zero, Nat.add_zero] at hq₁'
      rw [show os + P + (oe - S - (os + P)) = oe - S by omega,
        show ns + P + (ne - S - (ns + P)) = ne - S by omega] at hq₂'
      have hk₁ := ih (by omega) hq₁'
      have hk₂ := ih (by omega) hq₂'
      have hshort := hmin e' hp'.toWindow
      rw [keptLen_append]
      omega

end Divide

/-- The raw runs of the alignment keep as many lines as any path through the edit graph
allows. -/
theorem shortestRuns_kept (old new : Array String) {e : Nat}
    (hp : Path old.size new.size (sameLine old new) (0, 0) e (old.size, new.size)) :
    old.size + new.size ≤ 2 * keptLen (shortestRuns old new) + e := by
  have h := divide_kept old new (old.size + new.size + 1) (by omega) hp
  rwa [Nat.sub_zero, Nat.sub_zero] at h

end Linewise.Align
