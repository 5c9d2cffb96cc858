import Linewise.Proofs.Align.EditGraph
/-! The middle snake lies inside its window. Each round leaves on every diagonal of its distance
the furthest point a path with that many edits reaches; a backward answer is such a point, and a
forward answer outside the window would make a path shorter than the failed rounds allow. -/
namespace Linewise.Align

namespace Frontier

@[simp] theorem offset_set (v : Frontier) (k : Int) (x : Nat) : (v.set k x).offset = v.offset := rfl

@[simp] theorem size_set (v : Frontier) (k : Int) (x : Nat) :
    (v.set k x).cells.size = v.cells.size := by
  simp [set]

theorem get_set {v : Frontier} {k j : Int} {x : Nat} (hk : 0 ≤ k + v.offset)
    (hk' : k + v.offset < v.cells.size) (hj : 0 ≤ j + v.offset) :
    (v.set k x).get j = if j = k then x else v.get j := by
  unfold get set
  simp only [Array.getD_eq_getD_getElem?, Array.getElem?_setIfInBounds]
  by_cases h : j = k
  · subst h
    have hlt : (j + (v.offset : Int)).toNat < v.cells.size := by omega
    simp [hlt]
  · have hne : (k + (v.offset : Int)).toNat ≠ (j + v.offset).toNat := by omega
    simp [hne, h]

@[simp] theorem offset_start (reach : Nat) : (start reach).offset = reach + 1 := rfl

@[simp] theorem size_start (reach : Nat) : (start reach).cells.size = 2 * reach + 3 := by
  simp [start]

theorem get_start (reach : Nat) (k : Int) : (start reach).get k = 0 := by
  simp only [get, start, Array.getD_eq_getD_getElem?, Array.getElem?_replicate]
  split <;> rfl

end Frontier

/-- How far diagonal `k` gets in round `d`: from its entry along its common run, when the entry
lies inside the grid. -/
def advance (n m : Nat) (snake : Nat → Nat → Nat) (v : Frontier) (d k : Int) : Nat :=
  let x0 := entry v d k
  let y0 : Int := (x0 : Int) - k
  if x0 < n && 0 ≤ y0 && y0 < m then x0 + snake x0 y0.toNat else x0

/-- One round of the search: each diagonal in turn advances, until a check on its new point
answers. -/
def sweep (adv : Frontier → Int → Nat) (check : Int → Nat → Bool)
    (ret : Frontier → Int → Nat → Nat × Nat) : Frontier → List Int → Frontier ⊕ (Nat × Nat)
  | v, [] => .inl v
  | v, k :: ks =>
    let x := adv v k
    if check k x then .inr (ret v k x) else sweep adv check ret (v.set k x) ks

theorem forwardRound_eq_sweep (w : Window) (d : Int) (back : Frontier) :
    forwardRound w d back = sweep (fun v k => advance w.n w.m w.forwardSnake v d k)
      (fun k x => w.odd && ((k - w.delta).natAbs : Int) ≤ d - 1 &&
        w.n ≤ x + back.get (-(k - w.delta)))
      (fun v k _ => (entry v d k + w.oldStart, ((entry v d k : Int) - k).toNat + w.newStart)) := by
  funext front ks
  induction ks generalizing front with
  | nil => rfl
  | cons k ks ih =>
    rw [forwardRound, sweep, ih]
    rfl

theorem backwardRound_eq_sweep (w : Window) (d : Int) (front : Frontier) :
    backwardRound w d front = sweep (fun v k => advance w.n w.m w.backwardSnake v d k)
      (fun k x => !w.odd && ((k - w.delta).natAbs : Int) ≤ d &&
        w.n ≤ x + front.get (-(k - w.delta)))
      (fun _ k x => (w.n - x + w.oldStart, ((w.m : Int) - ((x : Int) - k)).toNat + w.newStart)) := by
  funext back ks
  induction ks generalizing back with
  | nil => rfl
  | cons k ks ih =>
    rw [backwardRound, sweep, ih]
    -- the round adds the common run to the entry; `advance` chooses between the two sums
    simp only [advance, Window.backwardSnake, add_ite, add_zero, Nat.cast_ite, Nat.cast_add,
      Nat.cast_zero, ite_sub, sub_add_eq_add_sub]
    rfl

theorem entry_congr {v v' : Frontier} {d k : Int} (h₁ : v.get (k - 1) = v'.get (k - 1))
    (h₂ : v.get (k + 1) = v'.get (k + 1)) : entry v d k = entry v' d k := by
  simp only [entry, h₁, h₂]

theorem advance_congr {v v' : Frontier} {d k : Int} (h₁ : v.get (k - 1) = v'.get (k - 1))
    (h₂ : v.get (k + 1) = v'.get (k + 1)) (n m : Nat) (snake : Nat → Nat → Nat) :
    advance n m snake v d k = advance n m snake v' d k := by
  simp only [advance, entry_congr h₁ h₂]

/-! ### The sweep of a round -/

/-- Diagonals a round can sweep over `v`: distinct, of one parity, so that no diagonal reads a
cell another one writes, and with both neighbours inside the frontier. -/
structure Sweepable (v : Frontier) (ks : List Int) : Prop where
  nodup : ks.Nodup
  parity : ∀ k ∈ ks, ∀ j ∈ ks, (k - j) % 2 = 0
  inside : ∀ k ∈ ks, 0 ≤ k - 1 + v.offset ∧ k + 1 + v.offset < v.cells.size

namespace Sweepable

variable {v : Frontier} {k : Int} {ks : List Int}

theorem tail (h : Sweepable v (k :: ks)) (x : Nat) : Sweepable (v.set k x) ks where
  nodup := (List.nodup_cons.1 h.nodup).2
  parity := fun a ha b hb => h.parity a (.tail _ ha) b (.tail _ hb)
  inside := fun a ha => by simpa using h.inside a (.tail _ ha)

theorem get_neighbours (h : Sweepable v (k :: ks)) (x : Nat) {j : Int} (hj : j ∈ ks) :
    (v.set k x).get (j - 1) = v.get (j - 1) ∧ (v.set k x).get (j + 1) = v.get (j + 1) := by
  have hk := h.inside k (.head _)
  have hj' := h.inside j (.tail _ hj)
  have hp := h.parity k (.head _) j (.tail _ hj)
  constructor
  · rw [Frontier.get_set (by omega) (by omega) (by omega), if_neg (by omega)]
  · rw [Frontier.get_set (by omega) (by omega) (by omega), if_neg (by omega)]

end Sweepable

section Sweep

variable {adv : Frontier → Int → Nat} {check : Int → Nat → Bool}
  {ret : Frontier → Int → Nat → Nat × Nat}

/-- The advance of a diagonal reads only the cells of its two neighbours. -/
def ReadsNeighbours (f : Frontier → Int → α) : Prop :=
  ∀ v v' k, v.get (k - 1) = v'.get (k - 1) → v.get (k + 1) = v'.get (k + 1) → f v k = f v' k

theorem sweep_inl (hadv : ReadsNeighbours adv) {v v' : Frontier} {ks : List Int}
    (hks : Sweepable v ks) (h : sweep adv check ret v ks = .inl v') :
    (∀ k ∈ ks, check k (adv v k) = false) ∧ v'.offset = v.offset ∧
      v'.cells.size = v.cells.size ∧
      ∀ j : Int, 0 ≤ j + v.offset → v'.get j = if j ∈ ks then adv v j else v.get j := by
  induction ks generalizing v with
  | nil =>
    cases h
    exact ⟨by simp, rfl, rfl, fun j _ => by simp⟩
  | cons k ks ih =>
    simp only [sweep] at h
    split at h
    · cases h
    · rename_i hc
      obtain ⟨hchecks, hoff, hsize, hget⟩ := ih (hks.tail _) h
      -- the later diagonals advance alike before and after `k` is written
      have hsame : ∀ j ∈ ks, adv (v.set k (adv v k)) j = adv v j := fun j hj =>
        hadv _ _ j (hks.get_neighbours _ hj).1 (hks.get_neighbours _ hj).2
      refine ⟨?_, by simpa using hoff, by simpa using hsize, fun j hj => ?_⟩
      · intro j hj
        rcases List.mem_cons.1 hj with rfl | hj
        · simpa using hc
        · rw [← hsame j hj]
          exact hchecks j hj
      · have hk := hks.inside k (.head _)
        have hnd := List.nodup_cons.1 hks.nodup
        rw [hget j (by simpa using hj), Frontier.get_set (by omega) (by omega) hj]
        by_cases hjk : j = k
        · subst hjk
          simp [hnd.1]
        · by_cases hjs : j ∈ ks
          · simp [hjs, hsame j hjs]
          · simp [hjs, hjk]

theorem sweep_inr (hadv : ReadsNeighbours adv) (hret : ∀ x, ReadsNeighbours (ret · · x))
    {v : Frontier} {ks : List Int} {p : Nat × Nat}
    (hks : Sweepable v ks) (h : sweep adv check ret v ks = .inr p) :
    ∃ k ∈ ks, check k (adv v k) = true ∧ p = ret v k (adv v k) := by
  induction ks generalizing v with
  | nil => cases h
  | cons k ks ih =>
    simp only [sweep] at h
    split at h
    · cases h
      exact ⟨k, .head _, ‹_›, rfl⟩
    · obtain ⟨j, hj, hc, rfl⟩ := ih (hks.tail _) h
      obtain ⟨h₁, h₂⟩ := hks.get_neighbours (adv v k) hj
      rw [hadv _ _ j h₁ h₂] at hc ⊢
      exact ⟨j, .tail _ hj, hc, hret _ _ _ j h₁ h₂⟩

end Sweep

theorem sweepable_diagonals {v : Frontier} {reach d : Nat} (hd : d < reach)
    (hv : v.offset = reach + 1 ∧ v.cells.size = 2 * reach + 3) : Sweepable v (diagonals d) where
  nodup := diagonals_nodup d
  parity := fun k hk j hj => by
    obtain ⟨i, _, rfl⟩ := mem_diagonals.1 hk
    obtain ⟨i', _, rfl⟩ := mem_diagonals.1 hj
    omega
  inside := fun k hk => by
    obtain ⟨i, _, rfl⟩ := mem_diagonals.1 hk
    omega

/-! ### Furthest points -/

section Furthest

variable (n m : Nat) (same : Nat → Nat → Prop)

/-- `x` is the furthest point of diagonal `k` that a path of `d` edits reaches. -/
def FurthestAt (d : Nat) (k : Int) (x : Nat) : Prop :=
  (∃ y : Nat, (x : Int) = k + y ∧ Path n m same (0, 0) d (x, y)) ∧
  ∀ x' y', Path n m same (0, 0) d (x', y') → (x' : Int) = k + y' → x' ≤ x

/-- What round `d` reads of its frontier: the start before the first round, and the furthest
points of the previous round after it. -/
def Ready : Nat → Frontier → Prop
  | 0, v => v.get 1 = 0
  | d + 1, v => ∀ k ∈ diagonals d, FurthestAt n m same d k (v.get k)

variable {n m same}

theorem entry_bounds (v : Frontier) {d : Nat} {k : Int} :
    ((k ≠ -((d + 1 : Nat) : Int) → v.get (k - 1) + 1 ≤ entry v ((d + 1 : Nat) : Int) k) ∧
      (k ≠ ((d + 1 : Nat) : Int) → v.get (k + 1) ≤ entry v ((d + 1 : Nat) : Int) k)) ∧
    ((k ≠ ((d + 1 : Nat) : Int) ∧ entry v ((d + 1 : Nat) : Int) k = v.get (k + 1)) ∨
      (k ≠ -((d + 1 : Nat) : Int) ∧ entry v ((d + 1 : Nat) : Int) k = v.get (k - 1) + 1)) := by
  unfold entry
  split
  · rename_i hc
    simp only [Bool.or_eq_true, beq_iff_eq, Bool.and_eq_true, bne_iff_ne, ne_eq,
      decide_eq_true_eq] at hc
    omega
  · rename_i hc
    simp only [Bool.or_eq_true, beq_iff_eq, Bool.and_eq_true, bne_iff_ne, ne_eq,
      decide_eq_true_eq, not_or, not_and, not_lt] at hc
    omega

theorem entry_spec {v : Frontier} {d : Nat} {k : Int} (hv : Ready n m same d v)
    (hk : k ∈ diagonals d) :
    (∃ y : Nat, (entry v d k : Int) = k + y ∧ Path n m same (0, 0) d (entry v d k, y)) ∧
    (∀ e x y, Path n m same (0, 0) e (x, y) → e + 1 = d → (x : Int) + 1 = k + y →
      x + 1 ≤ entry v d k) ∧
    (∀ e x y, Path n m same (0, 0) e (x, y) → e + 1 = d → (x : Int) = k + y + 1 →
      x ≤ entry v d k) := by
  obtain ⟨i, hi, hki⟩ := mem_diagonals.1 hk
  cases d with
  | zero =>
    obtain rfl : k = 0 := by omega
    simp only [Ready] at hv
    have h0 : entry v ((0 : Nat) : Int) 0 = 0 := by simp [entry, hv]
    refine ⟨⟨0, by rw [h0]; simp, by rw [h0]; exact .refl⟩, ?_, ?_⟩ <;> intro e _ _ _ he <;> omega
  | succ d =>
    obtain ⟨⟨hbelow, habove⟩, hcases⟩ := entry_bounds v (d := d) (k := k)
    -- the neighbours that exist in the previous round hold its furthest points
    have up : k ≠ ((d + 1 : Nat) : Int) → FurthestAt n m same d (k + 1) (v.get (k + 1)) :=
      fun h => hv _ (mem_diagonals.2 ⟨i - 1, by omega, by omega⟩)
    have down : k ≠ -((d + 1 : Nat) : Int) → FurthestAt n m same d (k - 1) (v.get (k - 1)) :=
      fun h => hv _ (mem_diagonals.2 ⟨i, by omega, by omega⟩)
    refine ⟨?_, ?_, ?_⟩
    · rcases hcases with ⟨hne, heq⟩ | ⟨hne, heq⟩
      · obtain ⟨⟨y, hy, hp⟩, -⟩ := up hne
        exact ⟨y + 1, by rw [heq]; push_cast; omega, by rw [heq]; exact hp.down⟩
      · obtain ⟨⟨y, hy, hp⟩, -⟩ := down hne
        exact ⟨y, by rw [heq]; push_cast; omega, by rw [heq]; exact hp.right⟩
    · intro e x y hp he hxy
      obtain rfl : e = d := by omega
      obtain ⟨j, hj, hjk⟩ := mem_diagonals.1 hp.mem_diagonals
      have hne : k ≠ -((e + 1 : Nat) : Int) := by dsimp only at hjk; omega
      have hx := (down hne).2 x y hp (by omega)
      have := hbelow hne
      omega
    · intro e x y hp he hxy
      obtain rfl : e = d := by omega
      obtain ⟨j, hj, hjk⟩ := mem_diagonals.1 hp.mem_diagonals
      have hne : k ≠ ((e + 1 : Nat) : Int) := by dsimp only at hjk; omega
      have hx := (up hne).2 x y hp (by omega)
      have := habove hne
      omega

/-- After round `d`, diagonal `k` holds the furthest point a path of `d` edits reaches on it. -/
theorem advance_furthest {snake : Nat → Nat → Nat}
    (hsnake : ∀ x y, x < n → y < m → IsSnake n m same x y (snake x y)) {v : Frontier} {d : Nat}
    {k : Int} (hv : Ready n m same d v) (hk : k ∈ diagonals d) :
    FurthestAt n m same d k (advance n m snake v d k) := by
  obtain ⟨⟨y0, hx0, hp0⟩, hright, hdown⟩ := entry_spec hv hk
  -- the common run from the entry: it ends where no diagonal step is open
  obtain ⟨t, ht, hpath, hstop⟩ : ∃ t, advance n m snake v d k = entry v d k + t ∧
      Path n m same (0, 0) d (entry v d k + t, y0 + t) ∧
      ¬ (entry v d k + t < n ∧ y0 + t < m ∧ same (entry v d k + t) (y0 + t)) := by
    dsimp only [advance]
    split
    · rename_i hc
      simp only [Bool.and_eq_true, decide_eq_true_eq] at hc
      have hy : ((entry v d k : Int) - k).toNat = y0 := by omega
      have hs := hsnake (entry v d k) y0 hc.1.1 (by omega)
      rw [hy]
      exact ⟨_, rfl, hp0.diags _ fun i hi => ⟨by have := hs.fits; omega,
        by have := hs.fits; omega, hs.along i hi⟩, fun ⟨h₁, h₂, h₃⟩ => hs.blocked h₁ h₂ h₃⟩
    · rename_i hc
      simp only [Bool.and_eq_true, decide_eq_true_eq, not_and, not_lt] at hc
      exact ⟨0, rfl, hp0, fun ⟨h₁, h₂, _⟩ => by omega⟩
  refine ⟨⟨y0 + t, by rw [ht]; push_cast; omega, ht ▸ hpath⟩, ?_⟩
  intro x' y' hp hxy
  rw [ht]
  -- induction over the path: its last edit is bounded by the entry, its diagonal steps by the
  -- end of the common run
  suffices key : ∀ e q, Path n m same (0, 0) e q → e = d → (q.1 : Int) = k + q.2 →
      q.1 ≤ entry v d k + t from key d _ hp rfl hxy
  intro e q hq
  induction hq with
  | refl => intro _ _; exact Nat.zero_le _
  | @right e x y h _ =>
    intro he hq
    have := hright e x y h he (by push_cast at hq; omega)
    dsimp only
    omega
  | @down e x y h _ =>
    intro he hq
    have := hdown e x y h he (by push_cast at hq; omega)
    dsimp only
    omega
  | @diag e x y _ hx hy hs ih =>
    intro he hq
    have hle := ih he (by push_cast at hq ⊢; omega)
    dsimp only at hle ⊢
    by_contra hlt
    obtain rfl : x = entry v d k + t := by omega
    obtain rfl : y = y0 + t := by push_cast at hq; omega
    exact hstop ⟨hx, hy, hs⟩

end Furthest

/-! ### The search -/

/-- What the search knows before round `d`: both frontiers hold the previous round, and no path
through the window has fewer edits than the rounds that found no overlap allow. -/
structure Searching (w : Window) (reach d : Nat) (front back : Frontier) : Prop where
  front_shape : front.offset = reach + 1 ∧ front.cells.size = 2 * reach + 3
  back_shape : back.offset = reach + 1 ∧ back.cells.size = 2 * reach + 3
  front_ready : Ready w.n w.m w.sameAt d front
  back_ready : Ready w.n w.m (reversed w.n w.m w.sameAt) d back
  far : ∀ e, Path w.n w.m w.sameAt (0, 0) e (w.n, w.m) → 2 * d ≤ e + 1

theorem searching_start (w : Window) (reach : Nat) :
    Searching w reach 0 (Frontier.start reach) (Frontier.start reach) where
  front_shape := by simp
  back_shape := by simp
  front_ready := Frontier.get_start _ _
  back_ready := Frontier.get_start _ _
  far := fun _ _ => by omega

section Search

variable {w : Window} {reach d : Nat} {front back front' back' : Frontier}

theorem forwardSnake_isSnake' (w : Window) :
    ∀ x y, x < w.n → y < w.m → IsSnake w.n w.m w.sameAt x y (w.forwardSnake x y) :=
  fun _ _ => w.forwardSnake_isSnake

theorem backwardSnake_isSnake' (w : Window) : ∀ x y, x < w.n → y < w.m →
    IsSnake w.n w.m (reversed w.n w.m w.sameAt) x y (w.backwardSnake x y) :=
  fun _ _ => w.backwardSnake_isSnake

theorem readsNeighbours_advance (n m : Nat) (snake : Nat → Nat → Nat) (d : Int) :
    ReadsNeighbours fun v k => advance n m snake v d k :=
  fun _ _ _ h₁ h₂ => advance_congr h₁ h₂ _ _ _

/-- A forward answer is the entry of a furthest point on a diagonal close to the end's. Outside
the window, the end would be reached with at most `2 d - 3` edits, fewer than the rounds before
allow. -/
theorem forward_answer_inside (hs : Searching w reach d front back) (hd : d < reach)
    {p : Nat × Nat} (h : forwardRound w d back front (diagonals d) = .inr p) :
    w.oldStart ≤ p.1 ∧ p.1 ≤ w.oldStart + w.n ∧ w.newStart ≤ p.2 ∧ p.2 ≤ w.newStart + w.m := by
  rw [forwardRound_eq_sweep] at h
  obtain ⟨k, hk, hc, rfl⟩ := sweep_inr (readsNeighbours_advance _ _ _ _)
    (fun _ _ _ _ h₁ h₂ => by simp only [entry_congr h₁ h₂]) (sweepable_diagonals hd hs.front_shape) h
  simp only [Bool.and_eq_true, decide_eq_true_eq] at hc
  obtain ⟨⟨y0, hx0, hp0⟩, -, -⟩ := entry_spec hs.front_ready hk
  obtain ⟨e', hend, he'⟩ := hp0.exists_to_end
  have hfar := hs.far e' hend
  have hδ := hc.1.2
  simp only [Window.delta] at hδ
  have hy : ((entry front d k : Int) - k).toNat = y0 := by omega
  dsimp only at he' ⊢
  rw [hy]
  omega

/-- A backward answer is a furthest point of the reversed graph, so it lies inside the window. -/
theorem backward_answer_inside (hs : Searching w reach d front back) (hd : d < reach)
    {p : Nat × Nat} (h : backwardRound w d front' back (diagonals d) = .inr p) :
    w.oldStart ≤ p.1 ∧ p.1 ≤ w.oldStart + w.n ∧ w.newStart ≤ p.2 ∧ p.2 ≤ w.newStart + w.m := by
  rw [backwardRound_eq_sweep] at h
  obtain ⟨k, hk, -, rfl⟩ := sweep_inr (readsNeighbours_advance _ _ _ _)
    (fun _ _ _ _ _ _ => rfl) (sweepable_diagonals hd hs.back_shape) h
  obtain ⟨⟨y, hy, -⟩, -⟩ := advance_furthest (backwardSnake_isSnake' w) hs.back_ready hk
  dsimp only
  omega

theorem Window.odd_eq_of_path {e : Nat} (hp : Path w.n w.m w.sameAt (0, 0) e (w.n, w.m)) :
    w.odd = (e % 2 == 1) := by
  obtain ⟨i, _, hδ⟩ := hp.diagonal
  simp only [Nat.cast_zero, sub_zero, zero_add] at hδ
  simp only [Window.odd, Window.delta, hδ]
  by_cases he : e % 2 = 1
  · have hδ2 : ((e : Int) - 2 * i) % 2 = 1 := by omega
    simp [hδ2, he]
  · have he' : (e % 2 == 1) = false := by simpa using he
    rw [he', beq_eq_false_iff_ne]
    omega

theorem meeting_diagonal {d₁ d₂ : Nat}
    (hp : Path w.n w.m w.sameAt (0, 0) (d₁ + d₂) (w.n, w.m)) :
    ∃ k ∈ diagonals d₁, w.delta - k ∈ diagonals d₂ ∧ ∀ x y,
      FurthestAt w.n w.m w.sameAt d₁ k x →
      FurthestAt w.n w.m (reversed w.n w.m w.sameAt) d₂ (w.delta - k) y → w.n ≤ x + y := by
  obtain ⟨q, h₁, h₂⟩ := hp.split rfl
  have hq := h₂.le
  have hrev := h₂.reverse ⟨le_rfl, le_rfl⟩
  simp only [Nat.sub_self] at hrev
  dsimp only at hq
  have hkb : w.delta - ((q.1 : Int) - q.2) = ((w.n - q.1 : Nat) : Int) - (w.m - q.2 : Nat) := by
    simp only [Window.delta]
    omega
  refine ⟨(q.1 : Int) - q.2, h₁.mem_diagonals, by rw [hkb]; exact hrev.mem_diagonals,
    fun x y hx hy => ?_⟩
  have h₁' := hx.2 q.1 q.2 h₁ (by ring)
  have h₂' := hy.2 _ _ hrev (by rw [hkb]; ring)
  omega

theorem no_path_odd {d : Nat} (hf : ∀ k ∈ diagonals (d + 1),
      FurthestAt w.n w.m w.sameAt (d + 1) k (front'.get k))
    (hb : ∀ k ∈ diagonals d, FurthestAt w.n w.m (reversed w.n w.m w.sameAt) d k (back.get k))
    (hchecks : ∀ k ∈ diagonals (d + 1), (w.odd && ((k - w.delta).natAbs : Int) ≤ ((d + 1 : Nat) : Int) - 1 &&
      w.n ≤ front'.get k + back.get (-(k - w.delta))) = false) :
    ¬ Path w.n w.m w.sameAt (0, 0) (d + 1 + d) (w.n, w.m) := by
  intro hp
  obtain ⟨k, hk, hkb, hmeet⟩ := meeting_diagonal hp
  have hodd : w.odd = true := by
    rw [Window.odd_eq_of_path hp]
    simp only [beq_iff_eq]
    omega
  obtain ⟨j, hj, hjk⟩ := mem_diagonals.1 hkb
  have hcheck : (w.odd && ((k - w.delta).natAbs : Int) ≤ ((d + 1 : Nat) : Int) - 1 &&
      w.n ≤ front'.get k + back.get (-(k - w.delta))) = true := by
    simp only [hodd, Bool.true_and, Bool.and_eq_true, decide_eq_true_eq]
    refine ⟨by omega, ?_⟩
    rw [neg_sub]
    exact hmeet _ _ (hf k hk) (hb _ hkb)
  rw [hchecks k hk] at hcheck
  exact Bool.false_ne_true hcheck

theorem no_path_even {d : Nat}
    (hf : ∀ k ∈ diagonals d, FurthestAt w.n w.m w.sameAt d k (front'.get k))
    (hb : ∀ k ∈ diagonals d, FurthestAt w.n w.m (reversed w.n w.m w.sameAt) d k (back'.get k))
    (hchecks : ∀ k ∈ diagonals d, (!w.odd && ((k - w.delta).natAbs : Int) ≤ (d : Int) &&
      w.n ≤ back'.get k + front'.get (-(k - w.delta))) = false) :
    ¬ Path w.n w.m w.sameAt (0, 0) (d + d) (w.n, w.m) := by
  intro hp
  obtain ⟨k, hk, hkb, hmeet⟩ := meeting_diagonal hp
  have hodd : w.odd = false := by
    rw [Window.odd_eq_of_path hp]
    simp only [beq_eq_false_iff_ne]
    omega
  obtain ⟨j, hj, hjk⟩ := mem_diagonals.1 hk
  have hcheck : (!w.odd && ((w.delta - k - w.delta).natAbs : Int) ≤ (d : Int) &&
      w.n ≤ back'.get (w.delta - k) + front'.get (-(w.delta - k - w.delta))) = true := by
    simp only [hodd, Bool.not_false, Bool.true_and, Bool.and_eq_true, decide_eq_true_eq]
    refine ⟨by omega, ?_⟩
    rw [show -(w.delta - k - w.delta) = k by ring, Nat.add_comm]
    exact hmeet _ _ (hf k hk) (hb _ hkb)
  rw [hchecks _ hkb] at hcheck
  exact Bool.false_ne_true hcheck

/-- The rounds of distance `d` that find no overlap leave the furthest points of round `d`, and
rule out paths of `2 d - 1` and `2 d` edits through the window. -/
theorem searching_succ (hs : Searching w reach d front back) (hd : d < reach)
    (hf : forwardRound w d back front (diagonals d) = .inl front')
    (hb : backwardRound w d front' back (diagonals d) = .inl back') :
    Searching w reach (d + 1) front' back' := by
  rw [forwardRound_eq_sweep] at hf
  rw [backwardRound_eq_sweep] at hb
  obtain ⟨fchecks, foff, fsize, fget⟩ :=
    sweep_inl (readsNeighbours_advance _ _ _ _) (sweepable_diagonals hd hs.front_shape) hf
  obtain ⟨bchecks, boff, bsize, bget⟩ :=
    sweep_inl (readsNeighbours_advance _ _ _ _) (sweepable_diagonals hd hs.back_shape) hb
  have fat : ∀ k ∈ diagonals d, front'.get k = advance w.n w.m w.forwardSnake front d k :=
    fun k hk => by
      obtain ⟨i, _, rfl⟩ := mem_diagonals.1 hk
      rw [fget _ (by have := hs.front_shape; omega), if_pos hk]
  have bat : ∀ k ∈ diagonals d, back'.get k = advance w.n w.m w.backwardSnake back d k :=
    fun k hk => by
      obtain ⟨i, _, rfl⟩ := mem_diagonals.1 hk
      rw [bget _ (by have := hs.back_shape; omega), if_pos hk]
  have fready : ∀ k ∈ diagonals d, FurthestAt w.n w.m w.sameAt d k (front'.get k) :=
    fun k hk => fat k hk ▸ advance_furthest (forwardSnake_isSnake' w) hs.front_ready hk
  have bready : ∀ k ∈ diagonals d,
      FurthestAt w.n w.m (reversed w.n w.m w.sameAt) d k (back'.get k) :=
    fun k hk => bat k hk ▸ advance_furthest (backwardSnake_isSnake' w) hs.back_ready hk
  refine ⟨⟨by rw [foff, hs.front_shape.1], by rw [fsize, hs.front_shape.2]⟩,
    ⟨by rw [boff, hs.back_shape.1], by rw [bsize, hs.back_shape.2]⟩, fready, bready, ?_⟩
  intro e hp
  have hfar := hs.far e hp
  by_contra hshort
  rcases (by omega : e + 1 = 2 * d ∨ e = 2 * d) with he | he
  · obtain ⟨d', rfl⟩ : ∃ d', d = d' + 1 := ⟨d - 1, by omega⟩
    refine no_path_odd fready hs.back_ready (fun k hk => ?_) (by rwa [show d' + 1 + d' = e by omega])
    rw [fat k hk]
    exact fchecks k hk
  · refine no_path_even fready bready (fun k hk => ?_) (by rwa [show d + d = e by omega])
    rw [bat k hk]
    exact bchecks k hk

end Search

theorem snakeSearch_inside {w : Window} {reach : Nat} :
    ∀ {rounds d : Nat} {front back : Frontier} {p : Nat × Nat},
      Searching w reach d front back → d + rounds ≤ reach →
      snakeSearch w d rounds front back = some p →
      w.oldStart ≤ p.1 ∧ p.1 ≤ w.oldStart + w.n ∧ w.newStart ≤ p.2 ∧ p.2 ≤ w.newStart + w.m
  | 0, _, _, _, _, _, _, h => by simp [snakeSearch] at h
  | rounds + 1, d, front, back, p, hs, hr, h => by
    rw [snakeSearch] at h
    split at h
    · cases h
      exact forward_answer_inside hs (by omega) ‹_›
    · rename_i front' hf
      split at h
      · cases h
        exact backward_answer_inside hs (by omega) ‹_›
      · exact snakeSearch_inside (searching_succ hs (by omega) hf ‹_›) (by omega) h

/-- The middle snake of a window lies inside it. -/
theorem middleSnake_inside {w : Window} {p : Nat × Nat} (h : middleSnake w = some p) :
    w.oldStart ≤ p.1 ∧ p.1 ≤ w.oldStart + w.n ∧ w.newStart ≤ p.2 ∧ p.2 ≤ w.newStart + w.m := by
  unfold middleSnake at h
  exact snakeSearch_inside (searching_start w _) (Nat.zero_add _).le h

end Linewise.Align
