import Linewise.Proofs.Align.MiddleSnake
/-! Runs that tile an alignment: the old ranges of the runs that cover old lines follow each other
from one position to another, the new ranges likewise, and kept runs keep equal lines. A run's
range on the side it does not touch plays no part, so its place there may be stale. Dividing a
window at its middle snakes gives runs that tile it. -/
namespace Linewise.Align

/-- The ranges `spans` follow each other from `a` to `b`. -/
def Tiles : Nat → List (Nat × Nat) → Nat → Prop
  | a, [], b => a = b
  | a, s :: spans, b => s.1 = a ∧ Tiles s.2 spans b

section Tiles

variable {a b c : Nat} {s : Nat × Nat} {spans xs ys : List (Nat × Nat)}

@[simp] theorem tiles_nil : Tiles a [] b ↔ a = b := Iff.rfl

@[simp] theorem tiles_cons : Tiles a (s :: spans) b ↔ s.1 = a ∧ Tiles s.2 spans b := Iff.rfl

theorem tiles_append : Tiles a (xs ++ ys) c ↔ ∃ b, Tiles a xs b ∧ Tiles b ys c := by
  induction xs generalizing a with
  | nil => simp
  | cons s xs ih => simp [ih, and_assoc]

theorem Tiles.le (h : Tiles a spans b) (hs : ∀ s ∈ spans, s.1 ≤ s.2) : a ≤ b := by
  induction spans generalizing a with
  | nil => exact le_of_eq h
  | cons s spans ih =>
    obtain ⟨rfl, h⟩ := h
    exact (hs s (.head _)).trans (ih h fun t ht => hs t (.tail _ ht))

theorem Tiles.eq_nil (h : Tiles a spans a) (hs : ∀ s ∈ spans, s.1 < s.2) : spans = [] := by
  cases spans with
  | nil => rfl
  | cons s spans =>
    obtain ⟨rfl, h⟩ := h
    have hle := h.le fun t ht => (hs t (.tail _ ht)).le
    have hlt := hs s (.head _)
    omega

theorem Tiles.le_fst (h : Tiles a spans b) (hs : ∀ s ∈ spans, s.1 ≤ s.2) :
    ∀ t ∈ spans, a ≤ t.1 := by
  induction spans generalizing a with
  | nil => simp
  | cons s spans ih =>
    obtain ⟨rfl, h⟩ := h
    rintro t (_ | ⟨_, ht⟩)
    · exact le_rfl
    · exact (hs s (.head _)).trans (ih h (fun u hu => hs u (.tail _ hu)) t ht)

theorem Tiles.pairwise (h : Tiles a spans b) (hs : ∀ s ∈ spans, s.1 ≤ s.2) :
    spans.Pairwise fun s t => s.2 ≤ t.1 := by
  induction spans generalizing a with
  | nil => exact .nil
  | cons s spans ih =>
    obtain ⟨rfl, h⟩ := h
    have hrest : ∀ u ∈ spans, u.1 ≤ u.2 := fun u hu => hs u (.tail _ hu)
    exact .cons (h.le_fst hrest) (ih h hrest)

end Tiles

namespace Run

def oldSpan? (r : Run) : Option (Nat × Nat) :=
  if r.move = .add then none else some (r.oldStart, r.oldStart + r.len)

def newSpan? (r : Run) : Option (Nat × Nat) :=
  if r.move = .drop then none else some (r.newStart, r.newStart + r.len)

/-- The lines a kept run keeps are equal. -/
def KeepsEqual (old new : Array String) (r : Run) : Prop :=
  r.move = .keep → ∀ t < r.len, old[r.oldStart + t]? = new[r.newStart + t]?

end Run

/-- Runs `rs` align the old lines from `p.1` to `q.1` with the new lines from `p.2` to `q.2`. -/
structure Aligned (old new : Array String) (p : Nat × Nat) (rs : List Run) (q : Nat × Nat) :
    Prop where
  olds : Tiles p.1 (rs.filterMap Run.oldSpan?) q.1
  news : Tiles p.2 (rs.filterMap Run.newSpan?) q.2
  keeps : ∀ r ∈ rs, r.KeepsEqual old new

def Filled (rs : List Run) : Prop := ∀ r ∈ rs, 0 < r.len

@[simp] theorem filled_nil : Filled [] := fun _ h => absurd h List.not_mem_nil

@[simp] theorem filled_cons {r : Run} {rs : List Run} : Filled (r :: rs) ↔ 0 < r.len ∧ Filled rs :=
  List.forall_mem_cons

@[simp] theorem filled_append {xs ys : List Run} : Filled (xs ++ ys) ↔ Filled xs ∧ Filled ys :=
  List.forall_mem_append

/-- Runs that tile the alignment from `p` to `q`, each covering a line. -/
def Tiled (old new : Array String) (p : Nat × Nat) (rs : List Run) (q : Nat × Nat) : Prop :=
  Aligned old new p rs q ∧ Filled rs

section Aligned

variable {old new : Array String} {p q r : Nat × Nat} {rs xs ys pre mid mid' post : List Run}

theorem aligned_iff : Aligned old new p rs q ↔
    Tiles p.1 (rs.filterMap Run.oldSpan?) q.1 ∧ Tiles p.2 (rs.filterMap Run.newSpan?) q.2 ∧
      ∀ r ∈ rs, r.KeepsEqual old new :=
  ⟨fun ⟨ho, hn, hk⟩ => ⟨ho, hn, hk⟩, fun ⟨ho, hn, hk⟩ => ⟨ho, hn, hk⟩⟩

theorem aligned_append :
    Aligned old new p (xs ++ ys) r ↔ ∃ q, Aligned old new p xs q ∧ Aligned old new q ys r := by
  simp only [aligned_iff, List.filterMap_append, tiles_append, List.forall_mem_append]
  constructor
  · rintro ⟨⟨a, ho₁, ho₂⟩, ⟨b, hn₁, hn₂⟩, hk₁, hk₂⟩
    exact ⟨(a, b), ⟨ho₁, hn₁, hk₁⟩, ho₂, hn₂, hk₂⟩
  · rintro ⟨q, ⟨ho₁, hn₁, hk₁⟩, ho₂, hn₂, hk₂⟩
    exact ⟨⟨q.1, ho₁, ho₂⟩, ⟨q.2, hn₁, hn₂⟩, hk₁, hk₂⟩

theorem Aligned.replace (h : Aligned old new p (pre ++ mid ++ post) r)
    (hmid : ∀ a b, Aligned old new a mid b → Aligned old new a mid' b) :
    Aligned old new p (pre ++ mid' ++ post) r := by
  obtain ⟨q₂, h₁, h₃⟩ := aligned_append.1 h
  obtain ⟨q₁, hpre, hm⟩ := aligned_append.1 h₁
  exact aligned_append.2 ⟨q₂, aligned_append.2 ⟨q₁, hpre, hmid _ _ hm⟩, h₃⟩

theorem aligned_nil : Aligned old new p [] q ↔ p = q := by
  simp [aligned_iff, Prod.ext_iff]

theorem aligned_empty_run {x : Run} (hx : x.len = 0) (h : Aligned old new p [x] q) : p = q := by
  obtain ⟨ho, hn, -⟩ := h
  rw [Prod.ext_iff]
  cases hm : x.move <;> simp [Run.oldSpan?, Run.newSpan?, hm, hx] at ho hn <;> omega

theorem Aligned.erase_empty {x : Run} (hx : x.len = 0) (h : Aligned old new p (pre ++ x :: post) r) :
    Aligned old new p (pre ++ post) r := by
  obtain ⟨q, hpre, hrest⟩ := aligned_append.1 h
  obtain ⟨q', hx', hpost⟩ := aligned_append.1 (show Aligned old new q ([x] ++ post) r from hrest)
  obtain rfl := aligned_empty_run hx hx'
  exact aligned_append.2 ⟨q, hpre, hpost⟩

end Aligned

/-! ### Common runs -/

theorem commonPrefix_spec (a : Array String) (i i' : Nat) (b : Array String) (j j' : Nat) :
    commonPrefix a i i' b j j' ≤ i' - i ∧ commonPrefix a i i' b j j' ≤ j' - j ∧
      ∀ t < commonPrefix a i i' b j j', a[i + t]? = b[j + t]? := by
  have hle := prefixMatch_le a i b j (min (i' - i) (j' - j))
  exact ⟨by unfold commonPrefix; omega, by unfold commonPrefix; omega,
    fun t ht => prefixMatch_agree ht⟩

theorem commonSuffix_spec (a : Array String) (i i' : Nat) (b : Array String) (j j' : Nat) :
    commonSuffix a i i' b j j' ≤ i' - i ∧ commonSuffix a i i' b j j' ≤ j' - j ∧
      ∀ t < commonSuffix a i i' b j j',
        a[i' - commonSuffix a i i' b j j' + t]? = b[j' - commonSuffix a i i' b j j' + t]? := by
  have hle := suffixMatch_le a i' b j' (min (i' - i) (j' - j))
  refine ⟨by unfold commonSuffix; omega, by unfold commonSuffix; omega, fun t ht => ?_⟩
  -- the `t`-th line of the common run is the `(s - 1 - t)`-th from its end
  unfold commonSuffix at ht ⊢
  generalize hs : suffixMatch a i' b j' (min (i' - i) (j' - j)) = s at ht hle ⊢
  have h := @suffixMatch_agree a b i' j' (min (i' - i) (j' - j)) (s - 1 - t) (by omega)
  rwa [show i' - (s - 1 - t + 1) = i' - s + t by omega,
    show j' - (s - 1 - t + 1) = j' - s + t by omega] at h

/-! ### Division -/

section Divide

variable {old new : Array String}

theorem frame_aligned {os oe ns ne p s : Nat} {middle : List Run}
    (hp : p ≤ oe - os ∧ p ≤ ne - ns ∧ ∀ t < p, old[os + t]? = new[ns + t]?)
    (hs : s ≤ oe - (os + p) ∧ s ≤ ne - (ns + p) ∧ ∀ t < s, old[oe - s + t]? = new[ne - s + t]?)
    (hmid : Aligned old new (os + p, ns + p) middle (oe - s, ne - s) ∧ Filled middle) :
    Aligned old new (os, ns)
        ((if 0 < p then [⟨.keep, os, ns, p⟩] else []) ++ middle ++
          (if 0 < s then [⟨.keep, oe - s, ne - s, s⟩] else [])) (oe, ne) ∧
      Filled ((if 0 < p then [⟨.keep, os, ns, p⟩] else []) ++ middle ++
          (if 0 < s then [⟨.keep, oe - s, ne - s, s⟩] else [])) := by
  have hlead : Aligned old new (os, ns) (if 0 < p then [⟨.keep, os, ns, p⟩] else [])
      (os + p, ns + p) ∧ Filled (if 0 < p then [⟨.keep, os, ns, p⟩] else []) := by
    split <;> simp_all [aligned_iff, Run.oldSpan?, Run.newSpan?, Run.KeepsEqual, Filled]
  have htail : Aligned old new (oe - s, ne - s) (if 0 < s then [⟨.keep, oe - s, ne - s, s⟩] else [])
      (oe, ne) ∧ Filled (if 0 < s then [⟨.keep, oe - s, ne - s, s⟩] else []) := by
    split
    · simp_all [aligned_iff, Run.oldSpan?, Run.newSpan?, Run.KeepsEqual, Filled]
      omega
    · simp [aligned_iff, Filled]
      omega
  refine ⟨aligned_append.2 ⟨_, aligned_append.2 ⟨_, hlead.1, hmid.1⟩, htail.1⟩, ?_⟩
  simp only [Filled, List.forall_mem_append] at hlead htail hmid ⊢
  exact ⟨⟨hlead.2, hmid.2⟩, htail.2⟩

theorem middle_aligned {os oe ns ne : Nat} (ho : os ≤ oe) (hn : ns ≤ ne) :
    (oe ≤ os ∧ ne ≤ ns → Aligned old new (os, ns) [] (oe, ne)) ∧
    (ne ≤ ns → os < oe → Aligned old new (os, ns) [⟨.drop, os, ns, oe - os⟩] (oe, ne) ∧
      Filled [⟨.drop, os, ns, oe - os⟩]) ∧
    (oe ≤ os → ns < ne → Aligned old new (os, ns) [⟨.add, os, ns, ne - ns⟩] (oe, ne) ∧
      Filled [⟨.add, os, ns, ne - ns⟩]) ∧
    (os < oe → ns < ne →
      Aligned old new (os, ns) [⟨.drop, os, ns, oe - os⟩, ⟨.add, os, ns, ne - ns⟩] (oe, ne) ∧
      Filled [⟨.drop, os, ns, oe - os⟩, ⟨.add, os, ns, ne - ns⟩]) := by
  refine ⟨fun h => ?_, fun h h' => ?_, fun h h' => ?_, fun h h' => ?_⟩ <;>
    simp [aligned_iff, Run.oldSpan?, Run.newSpan?, Run.KeepsEqual, Filled] <;> omega

/-- Dividing a window gives runs that tile it. -/
theorem divide_tiled (old new : Array String) :
    ∀ fuel {os oe ns ne : Nat}, os ≤ oe → ns ≤ ne →
      Tiled old new (os, ns) (divide old new fuel os oe ns ne) (oe, ne) := by
  -- the frame and the undivided middles are the same at every fuel; only a division recurses
  intro fuel
  induction fuel using Nat.strong_induction_on with
  | _ fuel ih =>
  intro os oe ns ne ho hn
  rw [divide.eq_def]
  obtain ⟨hp₁, hp₂, hp⟩ := commonPrefix_spec old os oe new ns ne
  obtain ⟨hs₁, hs₂, hs⟩ := commonSuffix_spec old (os + commonPrefix old os oe new ns ne) oe new
    (ns + commonPrefix old os oe new ns ne) ne
  refine frame_aligned ⟨hp₁, hp₂, hp⟩ ⟨hs₁, hs₂, hs⟩ ?_
  generalize commonPrefix old os oe new ns ne = p at *
  generalize commonSuffix old (os + p) oe new (ns + p) ne = s at *
  have hm := @middle_aligned old new _ _ _ _ (show os + p ≤ oe - s by omega)
    (show ns + p ≤ ne - s by omega)
  split_ifs with h₁ h₂ h₃ <;> simp only [Bool.and_eq_true, decide_eq_true_eq] at h₁
  · exact ⟨hm.1 h₁, by simp [Filled]⟩
  · exact hm.2.1 (by simpa using h₂) (by omega)
  · exact hm.2.2.1 (by simpa using h₃) (by simp at h₂; omega)
  · simp at h₂ h₃
    cases fuel with
    | zero => exact hm.2.2.2 (by omega) (by omega)
    | succ fuel =>
      -- the middle is divided at its middle snake, which lies inside it
      dsimp only
      split
      · rename_i x y hsnake
        have hin := middleSnake_inside hsnake
        simp only at hin
        obtain ⟨h₁, h₂⟩ := @ih fuel (Nat.lt_succ_self fuel) (os + p) x (ns + p) y (by omega) (by omega)
        obtain ⟨h₃, h₄⟩ := @ih fuel (Nat.lt_succ_self fuel) x (oe - s) y (ne - s) (by omega) (by omega)
        refine ⟨aligned_append.2 ⟨(x, y), h₁, h₃⟩, ?_⟩
        simp only [Filled, List.forall_mem_append] at h₂ h₄ ⊢
        exact ⟨h₂, h₄⟩
      · exact hm.2.2.2 (by omega) (by omega)

end Divide

/-- The raw runs of a shortest alignment tile both sequences. -/
theorem shortestRuns_tiled (old new : Array String) :
    Tiled old new (0, 0) (shortestRuns old new) (old.size, new.size) :=
  divide_tiled old new _ (Nat.zero_le _) (Nat.zero_le _)

end Linewise.Align
