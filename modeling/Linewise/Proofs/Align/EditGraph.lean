import Linewise.Align.Myers
import Mathlib
/-! The edit graph of two line sequences: a path moves right (a deleted line), down (an inserted
line) or along a diagonal where the sequences agree, and is counted by its edits. The common runs
the middle-snake search measures are the longest diagonal stretches, forward and reversed. -/
namespace Linewise.Align

/-- Paths through the edit graph of an `n` by `m` grid whose diagonal step from `(x, y)` is open
when `same x y`: `Path n m same p e q` when `q` is reached from `p` with `e` steps right or down. -/
inductive Path (n m : Nat) (same : Nat → Nat → Prop) (p : Nat × Nat) : Nat → Nat × Nat → Prop
  | refl : Path n m same p 0 p
  | right {e x y} : Path n m same p e (x, y) → Path n m same p (e + 1) (x + 1, y)
  | down {e x y} : Path n m same p e (x, y) → Path n m same p (e + 1) (x, y + 1)
  | diag {e x y} : Path n m same p e (x, y) → x < n → y < m → same x y →
      Path n m same p e (x + 1, y + 1)

/-- The edit graph of the reversed sequences: its diagonal step from `(a, b)` is the step of the
original graph into `(n - a, m - b)`. -/
def reversed (n m : Nat) (same : Nat → Nat → Prop) (a b : Nat) : Prop :=
  same (n - 1 - a) (m - 1 - b)

/-- `t` is the length of the longest stretch of open diagonal steps from `(x, y)`. -/
structure IsSnake (n m : Nat) (same : Nat → Nat → Prop) (x y t : Nat) : Prop where
  fits : x + t ≤ n ∧ y + t ≤ m
  along : ∀ i < t, same (x + i) (y + i)
  blocked : x + t < n → y + t < m → ¬ same (x + t) (y + t)

theorem mem_diagonals {d : Nat} {k : Int} : k ∈ diagonals d ↔ ∃ i ≤ d, k = d - 2 * i := by
  simp only [diagonals, List.mem_map, List.mem_range]
  constructor
  · rintro ⟨i, hi, rfl⟩
    exact ⟨i, by omega, rfl⟩
  · rintro ⟨i, hi, rfl⟩
    exact ⟨i, by omega, rfl⟩

theorem diagonals_nodup (d : Nat) : (diagonals d).Nodup := by
  refine List.Nodup.map_on ?_ List.nodup_range
  intro i _ j _ h
  omega

namespace Path

variable {n m : Nat} {same : Nat → Nat → Prop} {p q r : Nat × Nat} {e e₁ e₂ : Nat}

theorem trans (h₁ : Path n m same p e₁ q) (h₂ : Path n m same q e₂ r) :
    Path n m same p (e₁ + e₂) r := by
  induction h₂ with
  | refl => exact h₁
  | right _ ih => exact ih.right
  | down _ ih => exact ih.down
  | diag _ hx hy hs ih => exact ih.diag hx hy hs

theorem le (h : Path n m same p e q) : p.1 ≤ q.1 ∧ p.2 ≤ q.2 := by
  induction h with
  | refl => exact ⟨le_rfl, le_rfl⟩
  | right _ ih => dsimp only at ih ⊢; omega
  | down _ ih => dsimp only at ih ⊢; omega
  | diag _ _ _ _ ih => dsimp only at ih ⊢; omega

theorem diagonal (h : Path n m same p e q) :
    ∃ i ≤ e, (q.1 : Int) - q.2 = p.1 - p.2 + e - 2 * i := by
  induction h with
  | refl => exact ⟨0, le_rfl, by simp⟩
  | right _ ih =>
    obtain ⟨i, hi, h⟩ := ih
    exact ⟨i, by omega, by push_cast; omega⟩
  | down _ ih =>
    obtain ⟨i, hi, h⟩ := ih
    exact ⟨i + 1, by omega, by push_cast; omega⟩
  | diag _ _ _ _ ih =>
    obtain ⟨i, hi, h⟩ := ih
    exact ⟨i, hi, by push_cast; omega⟩

theorem mem_diagonals (h : Path n m same (0, 0) e q) : (q.1 : Int) - q.2 ∈ diagonals e := by
  obtain ⟨i, hi, hq⟩ := h.diagonal
  exact Align.mem_diagonals.2 ⟨i, hi, by simpa using hq⟩

theorem split (h : Path n m same p e r) (he : e = e₁ + e₂) :
    ∃ q, Path n m same p e₁ q ∧ Path n m same q e₂ r := by
  induction h generalizing e₂ with
  | refl =>
    obtain ⟨rfl, rfl⟩ : e₁ = 0 ∧ e₂ = 0 := by omega
    exact ⟨p, .refl, .refl⟩
  | @right e x y h ih =>
    cases e₂ with
    | zero =>
      obtain rfl : e₁ = e + 1 := by omega
      exact ⟨_, h.right, .refl⟩
    | succ e₂ =>
      obtain ⟨q, h₁, h₂⟩ := ih (show e = e₁ + e₂ by omega)
      exact ⟨q, h₁, h₂.right⟩
  | @down e x y h ih =>
    cases e₂ with
    | zero =>
      obtain rfl : e₁ = e + 1 := by omega
      exact ⟨_, h.down, .refl⟩
    | succ e₂ =>
      obtain ⟨q, h₁, h₂⟩ := ih (show e = e₁ + e₂ by omega)
      exact ⟨q, h₁, h₂.down⟩
  | diag _ hx hy hs ih =>
    obtain ⟨q, h₁, h₂⟩ := ih he
    exact ⟨q, h₁, h₂.diag hx hy hs⟩

theorem rights (h : Path n m same p e (x, y)) : ∀ j, Path n m same p (e + j) (x + j, y)
  | 0 => h
  | j + 1 => (rights h j).right

theorem downs (h : Path n m same p e (x, y)) : ∀ j, Path n m same p (e + j) (x, y + j)
  | 0 => h
  | j + 1 => (downs h j).down

theorem extend (h : Path n m same p e (x, y)) (hx : x ≤ x') (hy : y ≤ y') :
    Path n m same p (e + (x' - x) + (y' - y)) (x', y') := by
  have h' := (h.rights (x' - x)).downs (y' - y)
  rwa [Nat.add_sub_cancel' hx, Nat.add_sub_cancel' hy] at h'

theorem diags (h : Path n m same p e (x, y)) :
    ∀ t, (∀ i < t, x + i < n ∧ y + i < m ∧ same (x + i) (y + i)) →
      Path n m same p e (x + t, y + t)
  | 0, _ => h
  | t + 1, ht => by
    have ⟨hx, hy, hs⟩ := ht t (by omega)
    exact (diags h t fun i hi => ht i (by omega)).diag hx hy hs

/-- From any point a path of `e` edits reaches, the end `(n, m)` is reached with at most
`e + (n + m) - (x + y)` edits: inside the grid by steps right and down, and outside it by the
path's last point inside, since every step outside is an edit. -/
theorem exists_to_end (h : Path n m same (0, 0) e q) :
    ∃ e', Path n m same (0, 0) e' (n, m) ∧ e' + q.1 + q.2 ≤ e + n + m := by
  induction h with
  | refl => exact ⟨0 + (n - 0) + (m - 0), Path.refl.extend (Nat.zero_le _) (Nat.zero_le _), by simp⟩
  | right _ ih =>
    obtain ⟨e', h', he'⟩ := ih
    exact ⟨e', h', by dsimp only at he' ⊢; omega⟩
  | down _ ih =>
    obtain ⟨e', h', he'⟩ := ih
    exact ⟨e', h', by dsimp only at he' ⊢; omega⟩
  | diag h hx hy hs _ =>
    exact ⟨_, (h.diag hx hy hs).extend hx hy, by omega⟩

theorem right_head (h : Path n m same (x + 1, y) e r) : Path n m same (x, y) (e + 1) r := by
  have h' := (Path.refl.right : Path n m same (x, y) (0 + 1) (x + 1, y)).trans h
  rwa [Nat.zero_add, Nat.add_comm] at h'

theorem down_head (h : Path n m same (x, y + 1) e r) : Path n m same (x, y) (e + 1) r := by
  have h' := (Path.refl.down : Path n m same (x, y) (0 + 1) (x, y + 1)).trans h
  rwa [Nat.zero_add, Nat.add_comm] at h'

theorem diag_head (h : Path n m same (x + 1, y + 1) e r) (hx : x < n) (hy : y < m)
    (hs : same x y) : Path n m same (x, y) e r := by
  have h' := (Path.refl.diag hx hy hs).trans h
  rwa [Nat.zero_add] at h'

theorem reverse (h : Path n m same p e q) (hq : q.1 ≤ n ∧ q.2 ≤ m) :
    Path n m (reversed n m same) (n - q.1, m - q.2) e (n - p.1, m - p.2) := by
  induction h with
  | refl => exact .refl
  | @right e x y _ ih =>
    have h' := ih (by dsimp only at hq ⊢; omega)
    rw [show n - x = n - (x + 1) + 1 by dsimp only at hq; omega] at h'
    exact h'.right_head
  | @down e x y _ ih =>
    have h' := ih (by dsimp only at hq ⊢; omega)
    rw [show m - y = m - (y + 1) + 1 by dsimp only at hq; omega] at h'
    exact h'.down_head
  | @diag e x y _ hx hy hs ih =>
    have h' := ih (by omega)
    rw [show n - x = n - (x + 1) + 1 by omega, show m - y = m - (y + 1) + 1 by omega] at h'
    refine h'.diag_head (by omega) (by omega) ?_
    rwa [reversed, show n - 1 - (n - (x + 1)) = x by omega, show m - 1 - (m - (y + 1)) = y by omega]

end Path

/-! ### Common runs as snakes -/

theorem prefixMatch_le (a : Array String) (i : Nat) (b : Array String) (j : Nat) :
    ∀ bound, prefixMatch a i b j bound ≤ bound
  | 0 => le_rfl
  | bound + 1 => by
    rw [prefixMatch]
    split
    · exact Nat.succ_le_succ (prefixMatch_le a (i + 1) b (j + 1) bound)
    · exact Nat.zero_le _

theorem prefixMatch_agree {a b : Array String} :
    ∀ {i j bound t}, t < prefixMatch a i b j bound → a[i + t]? = b[j + t]?
  | _, _, 0, _, ht => absurd ht (Nat.not_lt_zero _)
  | i, j, bound + 1, t, ht => by
    by_cases hc : (a[i]? == b[j]?) = true
    · rw [prefixMatch, if_pos hc] at ht
      cases t with
      | zero => simpa using hc
      | succ t =>
        have h := @prefixMatch_agree a b (i + 1) (j + 1) bound t (by omega)
        rwa [Nat.add_right_comm i, Nat.add_right_comm j] at h
    · rw [prefixMatch, if_neg hc] at ht
      exact absurd ht (Nat.not_lt_zero _)

theorem prefixMatch_stop {a b : Array String} :
    ∀ {i j bound}, prefixMatch a i b j bound < bound →
      a[i + prefixMatch a i b j bound]? ≠ b[j + prefixMatch a i b j bound]?
  | _, _, 0, h => absurd h (Nat.not_lt_zero _)
  | i, j, bound + 1, h => by
    by_cases hc : (a[i]? == b[j]?) = true
    · rw [prefixMatch, if_pos hc] at h ⊢
      have h' := @prefixMatch_stop a b (i + 1) (j + 1) bound (by omega)
      rwa [Nat.add_right_comm i, Nat.add_right_comm j] at h'
    · rw [prefixMatch, if_neg hc]
      simpa using hc

theorem suffixMatch_le (a : Array String) (i : Nat) (b : Array String) (j : Nat) :
    ∀ bound, suffixMatch a i b j bound ≤ bound
  | 0 => le_rfl
  | bound + 1 => by
    rw [suffixMatch]
    split
    · exact Nat.succ_le_succ (suffixMatch_le a (i - 1) b (j - 1) bound)
    · exact Nat.zero_le _

theorem suffixMatch_agree {a b : Array String} :
    ∀ {i j bound t}, t < suffixMatch a i b j bound → a[i - (t + 1)]? = b[j - (t + 1)]?
  | _, _, 0, _, ht => absurd ht (Nat.not_lt_zero _)
  | i, j, bound + 1, t, ht => by
    by_cases hc : (a[i - 1]? == b[j - 1]?) = true
    · rw [suffixMatch, if_pos hc] at ht
      cases t with
      | zero => simpa using hc
      | succ t =>
        have h := @suffixMatch_agree a b (i - 1) (j - 1) bound t (by omega)
        rwa [Nat.sub_sub, Nat.sub_sub, Nat.add_comm 1] at h
    · rw [suffixMatch, if_neg hc] at ht
      exact absurd ht (Nat.not_lt_zero _)

theorem suffixMatch_stop {a b : Array String} :
    ∀ {i j bound}, suffixMatch a i b j bound < bound →
      a[i - (suffixMatch a i b j bound + 1)]? ≠ b[j - (suffixMatch a i b j bound + 1)]?
  | _, _, 0, h => absurd h (Nat.not_lt_zero _)
  | i, j, bound + 1, h => by
    by_cases hc : (a[i - 1]? == b[j - 1]?) = true
    · rw [suffixMatch, if_pos hc] at h ⊢
      have h' := @suffixMatch_stop a b (i - 1) (j - 1) bound (by omega)
      rwa [Nat.sub_sub, Nat.sub_sub, Nat.add_comm 1] at h'
    · rw [suffixMatch, if_neg hc]
      simpa using hc

namespace Window

/-- The diagonal step from `(x, y)` of the window's edit graph: line `x` of the old window equals
line `y` of the new one. -/
def sameAt (w : Window) (x y : Nat) : Prop :=
  w.old[w.oldStart + x]? = w.new[w.newStart + y]?

def forwardSnake (w : Window) (x y : Nat) : Nat :=
  commonPrefix w.old (w.oldStart + x) (w.oldStart + w.n) w.new (w.newStart + y) (w.newStart + w.m)

def backwardSnake (w : Window) (x y : Nat) : Nat :=
  commonSuffix w.old w.oldStart (w.oldStart + w.n - x) w.new w.newStart (w.newStart + (w.m - y))

theorem forwardSnake_isSnake (w : Window) {x y : Nat} (hx : x < w.n) (hy : y < w.m) :
    IsSnake w.n w.m w.sameAt x y (w.forwardSnake x y) := by
  have hb : w.oldStart + w.n - (w.oldStart + x) = w.n - x ∧
      w.newStart + w.m - (w.newStart + y) = w.m - y := by omega
  unfold forwardSnake commonPrefix
  rw [hb.1, hb.2]
  have hle := prefixMatch_le w.old (w.oldStart + x) w.new (w.newStart + y) (min (w.n - x) (w.m - y))
  refine ⟨by omega, fun i hi => ?_, fun hxt hyt => ?_⟩
  · have h := prefixMatch_agree hi
    rwa [Nat.add_assoc, Nat.add_assoc] at h
  · have h := @prefixMatch_stop w.old w.new (w.oldStart + x) (w.newStart + y)
      (min (w.n - x) (w.m - y)) (by omega)
    rwa [Nat.add_assoc, Nat.add_assoc] at h

theorem backwardSnake_isSnake (w : Window) {x y : Nat} (hx : x < w.n) (hy : y < w.m) :
    IsSnake w.n w.m (reversed w.n w.m w.sameAt) x y (w.backwardSnake x y) := by
  have hb : w.oldStart + w.n - x - w.oldStart = w.n - x ∧
      w.newStart + (w.m - y) - w.newStart = w.m - y := by omega
  unfold backwardSnake commonSuffix
  rw [hb.1, hb.2]
  have hle := suffixMatch_le w.old (w.oldStart + w.n - x) w.new (w.newStart + (w.m - y))
    (min (w.n - x) (w.m - y))
  refine ⟨by omega, fun i hi => ?_, fun hxt hyt => ?_⟩
  · have h := suffixMatch_agree hi
    unfold reversed sameAt
    rwa [show w.oldStart + w.n - x - (i + 1) = w.oldStart + (w.n - 1 - (x + i)) by omega,
      show w.newStart + (w.m - y) - (i + 1) = w.newStart + (w.m - 1 - (y + i)) by omega] at h
  · have h := @suffixMatch_stop w.old w.new (w.oldStart + w.n - x) (w.newStart + (w.m - y))
      (min (w.n - x) (w.m - y)) (by omega)
    unfold reversed sameAt
    generalize suffixMatch w.old (w.oldStart + w.n - x) w.new (w.newStart + (w.m - y))
      (min (w.n - x) (w.m - y)) = t at h hxt hyt
    rwa [show w.oldStart + w.n - x - (t + 1) = w.oldStart + (w.n - 1 - (x + t)) by omega,
      show w.newStart + (w.m - y) - (t + 1) = w.newStart + (w.m - 1 - (y + t)) by omega] at h

end Window

end Linewise.Align
