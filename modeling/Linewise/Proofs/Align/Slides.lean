import Linewise.Proofs.Align.Runs
import Linewise.Align.Slide
/-! The local rewrites the slides make of neighbouring runs: an exchange, a merge, the removal of
an empty run, or a change moving past common lines of a kept run. Each keeps the ranges tiling and
the kept lines equal, and so does any chain of them. -/
namespace Linewise.Align

/-! ### Lists cut around a position -/

section Surgery

variable {α : Type} (pre l : List α)

theorem modify_append_length (i : Nat) (f : α → α) :
    (pre ++ l).modify (pre.length + i) f = pre ++ l.modify i f := by
  induction pre with
  | nil => simp
  | cons a pre ih => simp [Nat.succ_add, ih]

theorem modify_append_length_self (f : α → α) :
    (pre ++ l).modify pre.length f = pre ++ l.modify 0 f :=
  modify_append_length pre l 0 f

theorem insertIdx_append_length (i : Nat) (x : α) :
    (pre ++ l).insertIdx (pre.length + i) x = pre ++ l.insertIdx i x := by
  induction pre with
  | nil => simp
  | cons a pre ih => simp [Nat.succ_add, ih, List.insertIdx_succ_cons]

theorem insertIdx_append_length_self (x : α) :
    (pre ++ l).insertIdx pre.length x = pre ++ x :: l := by
  simpa using insertIdx_append_length pre l 0 x

theorem eraseIdx_append_length (i : Nat) :
    (pre ++ l).eraseIdx (pre.length + i) = pre ++ l.eraseIdx i := by
  rw [List.eraseIdx_append_of_length_le (Nat.le_add_right _ _), Nat.add_sub_cancel_left]

theorem eraseIdx_append_length_self : (pre ++ l).eraseIdx pre.length = pre ++ l.eraseIdx 0 :=
  eraseIdx_append_length pre l 0

variable {pre l}

theorem exists_split {rs : List α} {q : Nat} {a b : α} (ha : rs[q]? = some a)
    (hb : rs[q + 1]? = some b) : ∃ pre post, rs = pre ++ a :: b :: post ∧ q = pre.length := by
  obtain ⟨hq, rfl⟩ := List.getElem?_eq_some_iff.1 ha
  obtain ⟨hq', rfl⟩ := List.getElem?_eq_some_iff.1 hb
  refine ⟨rs.take q, rs.drop (q + 1 + 1), ?_, by simp; omega⟩
  rw [← List.drop_eq_getElem_cons hq', ← List.drop_eq_getElem_cons hq, List.take_append_drop]

end Surgery

theorem swapNext_split (pre post : List Run) (a b : Run) :
    swapNext (pre ++ a :: b :: post) pre.length = pre ++ b :: a :: post := by
  unfold swapNext
  simp [List.set_append_right]

theorem keepsAt_split (pre l : List Run) (i : Nat) :
    keepsAt (pre ++ l) (pre.length + i) = keepsAt l i := by
  unfold keepsAt
  rw [List.getElem?_append_right (by omega), Nat.add_sub_cancel_left]

namespace Run

variable (r : Run) (n : Nat)

@[simp] theorem move_shiftLeft : (r.shiftLeft n).move = r.move := rfl
@[simp] theorem move_shiftRight : (r.shiftRight n).move = r.move := rfl
@[simp] theorem move_growLeft : (r.growLeft n).move = r.move := rfl
@[simp] theorem move_growRight : (r.growRight n).move = r.move := rfl
@[simp] theorem move_shrinkLeft : (r.shrinkLeft n).move = r.move := rfl
@[simp] theorem move_shrinkRight : (r.shrinkRight n).move = r.move := rfl
@[simp] theorem len_shiftLeft : (r.shiftLeft n).len = r.len := rfl
@[simp] theorem len_shiftRight : (r.shiftRight n).len = r.len := rfl
@[simp] theorem len_growLeft : (r.growLeft n).len = r.len + n := rfl
@[simp] theorem len_growRight : (r.growRight n).len = r.len + n := rfl
@[simp] theorem len_shrinkLeft : (r.shrinkLeft n).len = r.len - n := rfl
@[simp] theorem len_shrinkRight : (r.shrinkRight n).len = r.len - n := rfl

theorem oldLen_of_move (h : r.move ≠ .add) : r.oldLen = r.len := by
  unfold oldLen; split <;> simp_all

theorem newLen_of_move (h : r.move ≠ .drop) : r.newLen = r.len := by
  unfold newLen; split <;> simp_all

theorem oldEnd_of_move (h : r.move ≠ .add) : r.oldEnd = r.oldStart + r.len := by
  rw [oldEnd, oldLen_of_move r h]

theorem newEnd_of_move (h : r.move ≠ .drop) : r.newEnd = r.newStart + r.len := by
  rw [newEnd, newLen_of_move r h]

end Run

/-! ### The local rewrites -/

def dropEmpty (r : Run) : List Run := if r.len = 0 then [] else [r]

/-- The added run `cur` after the kept run `prev` can move `s` lines towards the start: the last
`s` lines `prev` keeps are the last `s` lines `cur` adds. -/
structure UpRoom (old new : Array String) (prev cur : Run) (s : Nat) : Prop where
  keep : prev.move = .keep
  add : cur.move = .add
  pos : 0 < s
  le_prev : s ≤ prev.len
  le_cur : s ≤ cur.len
  agree : ∀ t < s, old[prev.oldStart + prev.len - s + t]? = new[cur.newStart + cur.len - s + t]?

/-- The added run `cur` before the kept run `next` can move `s` lines towards the end: the first
`s` lines `next` keeps are the first `s` lines `cur` adds. -/
structure DownRoom (old new : Array String) (cur next : Run) (s : Nat) : Prop where
  add : cur.move = .add
  keep : next.move = .keep
  pos : 0 < s
  le_next : s ≤ next.len
  le_cur : s ≤ cur.len
  agree : ∀ t < s, old[next.oldStart + t]? = new[cur.newStart + t]?

/-- One rewrite of neighbouring runs made by the slides. -/
inductive SlideStep (old new : Array String) : List Run → List Run → Prop
  | swap {pre post : List Run} {a b : Run} : a.move ≠ .keep → b.move ≠ .keep → a.move ≠ b.move →
      SlideStep old new (pre ++ a :: b :: post) (pre ++ b :: a :: post)
  | merge {pre post : List Run} {a b : Run} : a.move ≠ .keep → b.move = a.move →
      SlideStep old new (pre ++ a :: b :: post) (pre ++ a.growRight b.len :: post)
  | erase {pre post : List Run} {x : Run} : x.len = 0 →
      SlideStep old new (pre ++ x :: post) (pre ++ post)
  | up {pre post : List Run} {prev cur : Run} {s : Nat} : UpRoom old new prev cur s →
      SlideStep old new (pre ++ prev :: cur :: post)
        (pre ++ dropEmpty (prev.shrinkLeft s) ++
          cur.shiftLeft s :: ⟨.keep, prev.oldStart + prev.len - s, cur.newStart + cur.len - s, s⟩ ::
            post)
  | upInto {pre post : List Run} {prev cur next : Run} {s : Nat} : UpRoom old new prev cur s →
      next.move = .keep →
      SlideStep old new (pre ++ prev :: cur :: next :: post)
        (pre ++ dropEmpty (prev.shrinkLeft s) ++ cur.shiftLeft s :: next.growLeft s :: post)
  | down {pre post : List Run} {cur next : Run} {s : Nat} : DownRoom old new cur next s →
      SlideStep old new (pre ++ cur :: next :: post)
        (pre ++ ⟨.keep, next.oldStart, cur.newStart, s⟩ :: cur.shiftRight s ::
          (dropEmpty (next.shrinkRight s) ++ post))
  | downInto {pre post : List Run} {prev cur next : Run} {s : Nat} : DownRoom old new cur next s →
      prev.move = .keep →
      SlideStep old new (pre ++ prev :: cur :: next :: post)
        (pre ++ prev.growRight s :: cur.shiftRight s :: (dropEmpty (next.shrinkRight s) ++ post))

section Local

variable {old new : Array String} {x y : Nat × Nat}

theorem aligned_dropEmpty_cons {r : Run} {rest : List Run} (h : Aligned old new x (r :: rest) y) :
    Aligned old new x (dropEmpty r ++ rest) y := by
  unfold dropEmpty
  split
  · simpa using Aligned.erase_empty ‹_› (show Aligned old new x ([] ++ r :: rest) y from h)
  · exact h

theorem aligned_append_dropEmpty {r : Run} {rest : List Run} (h : Aligned old new x (rest ++ [r]) y) :
    Aligned old new x (rest ++ dropEmpty r) y := by
  unfold dropEmpty
  split
  · simpa using Aligned.erase_empty ‹_› (show Aligned old new x (rest ++ r :: []) y from h)
  · exact h

theorem filled_dropEmpty (r : Run) : Filled (dropEmpty r) := by
  unfold dropEmpty
  split
  · exact filled_nil
  · simp only [filled_cons, filled_nil, and_true]
    omega

theorem aligned_swap {a b : Run} (ha : a.move ≠ .keep) (hb : b.move ≠ .keep) (hab : a.move ≠ b.move)
    (h : Aligned old new x [a, b] y) : Aligned old new x [b, a] y := by
  rw [aligned_iff] at h ⊢
  obtain ⟨ho, hn, hk⟩ := h
  refine ⟨?_, ?_, by simpa [and_comm] using hk⟩ <;>
    cases hma : a.move <;> cases hmb : b.move <;>
      simp_all [Run.oldSpan?, Run.newSpan?] <;> omega

theorem aligned_merge {a b : Run} (ha : a.move ≠ .keep) (hab : b.move = a.move)
    (h : Aligned old new x [a, b] y) : Aligned old new x [a.growRight b.len] y := by
  rw [aligned_iff] at h ⊢
  obtain ⟨ho, hn, -⟩ := h
  refine ⟨?_, ?_, by simp [Run.KeepsEqual, ha]⟩ <;>
    cases hma : a.move <;> simp_all [Run.oldSpan?, Run.newSpan?, Run.growRight] <;> omega

theorem aligned_up {prev cur : Run} {s : Nat} (hs : UpRoom old new prev cur s)
    (h : Aligned old new x [prev, cur] y) :
    Aligned old new x [prev.shrinkLeft s, cur.shiftLeft s,
      ⟨.keep, prev.oldStart + prev.len - s, cur.newStart + cur.len - s, s⟩] y := by
  obtain ⟨hp, hc, hpos, hsp, hsc, hagree⟩ := hs
  obtain ⟨pm, po, pn, pl⟩ := prev
  obtain ⟨cm, co, cn, cl⟩ := cur
  dsimp only at hp hc hsp hsc hagree
  subst hp hc
  rw [aligned_iff] at h ⊢
  simp [Run.oldSpan?, Run.newSpan?, Run.KeepsEqual, Run.shrinkLeft, Run.shiftLeft] at h ⊢
  obtain ⟨⟨ho₁, ho₂⟩, ⟨hn₁, hn₂, hn₃⟩, hk⟩ := h
  exact ⟨by omega, by omega, fun t ht => hk t (by omega), hagree⟩

theorem aligned_upInto {prev cur next : Run} {s : Nat} (hs : UpRoom old new prev cur s)
    (hnext : next.move = .keep) (h : Aligned old new x [prev, cur, next] y) :
    Aligned old new x [prev.shrinkLeft s, cur.shiftLeft s, next.growLeft s] y := by
  obtain ⟨hp, hc, hpos, hsp, hsc, hagree⟩ := hs
  obtain ⟨pm, po, pn, pl⟩ := prev
  obtain ⟨cm, co, cn, cl⟩ := cur
  obtain ⟨nm, no, nn, nl⟩ := next
  dsimp only at hp hc hnext hsp hsc hagree
  subst hp hc hnext
  rw [aligned_iff] at h ⊢
  simp [Run.oldSpan?, Run.newSpan?, Run.KeepsEqual, Run.shrinkLeft, Run.shiftLeft,
    Run.growLeft] at h ⊢
  obtain ⟨⟨ho₁, ho₂, ho₃⟩, ⟨hn₁, hn₂, hn₃, hn₄⟩, hkp, hkn⟩ := h
  refine ⟨by omega, by omega, fun t ht => hkp t (by omega), fun t ht => ?_⟩
  -- the kept run after takes on the common lines first, then its own
  by_cases hts : t < s
  · have := hagree t hts
    rwa [show no - s + t = po + pl - s + t by omega, show nn - s + t = cn + cl - s + t by omega]
  · have := hkn (t - s) (by omega)
    rwa [show no + (t - s) = no - s + t by omega, show nn + (t - s) = nn - s + t by omega] at this

theorem aligned_down {cur next : Run} {s : Nat} (hs : DownRoom old new cur next s)
    (h : Aligned old new x [cur, next] y) :
    Aligned old new x [⟨.keep, next.oldStart, cur.newStart, s⟩, cur.shiftRight s,
      next.shrinkRight s] y := by
  obtain ⟨hc, hn, hpos, hsn, hsc, hagree⟩ := hs
  obtain ⟨cm, co, cn, cl⟩ := cur
  obtain ⟨nm, no, nn, nl⟩ := next
  dsimp only at hc hn hsn hsc hagree
  subst hc hn
  rw [aligned_iff] at h ⊢
  simp [Run.oldSpan?, Run.newSpan?, Run.KeepsEqual, Run.shrinkRight, Run.shiftRight] at h ⊢
  obtain ⟨⟨ho₁, ho₂⟩, ⟨hn₁, hn₂, hn₃⟩, hk⟩ := h
  refine ⟨by omega, by omega, hagree, fun t ht => ?_⟩
  have := hk (s + t) (by omega)
  rwa [← Nat.add_assoc, ← Nat.add_assoc] at this

theorem aligned_downInto {prev cur next : Run} {s : Nat} (hs : DownRoom old new cur next s)
    (hprev : prev.move = .keep) (h : Aligned old new x [prev, cur, next] y) :
    Aligned old new x [prev.growRight s, cur.shiftRight s, next.shrinkRight s] y := by
  obtain ⟨hc, hn, hpos, hsn, hsc, hagree⟩ := hs
  obtain ⟨pm, po, pn, pl⟩ := prev
  obtain ⟨cm, co, cn, cl⟩ := cur
  obtain ⟨nm, no, nn, nl⟩ := next
  dsimp only at hprev hc hn hsn hsc hagree
  subst hprev hc hn
  rw [aligned_iff] at h ⊢
  simp [Run.oldSpan?, Run.newSpan?, Run.KeepsEqual, Run.shrinkRight, Run.shiftRight,
    Run.growRight] at h ⊢
  obtain ⟨⟨ho₁, ho₂, ho₃⟩, ⟨hn₁, hn₂, hn₃, hn₄⟩, hkp, hkn⟩ := h
  refine ⟨by omega, by omega, fun t ht => ?_, fun t ht => ?_⟩
  · -- the kept run before takes on the common lines after its own
    by_cases htp : t < pl
    · exact hkp t htp
    · have := hagree (t - pl) (by omega)
      rwa [show no + (t - pl) = po + t by omega, show cn + (t - pl) = pn + t by omega] at this
  · have := hkn (s + t) (by omega)
    rwa [← Nat.add_assoc, ← Nat.add_assoc] at this

end Local

/-! ### Steps and runs of steps -/

section Steps

variable {old new : Array String} {x y : Nat × Nat} {rs rs' : List Run}

theorem Tiled.replace {pre mid mid' post : List Run} (h : Tiled old new x (pre ++ mid ++ post) y)
    (hmid : ∀ a b, Aligned old new a mid b → Aligned old new a mid' b)
    (hfill : Filled mid → Filled mid') : Tiled old new x (pre ++ mid' ++ post) y := by
  obtain ⟨ha, hf⟩ := h
  rw [filled_append, filled_append] at hf
  exact ⟨ha.replace hmid, filled_append.2 ⟨filled_append.2 ⟨hf.1.1, hfill hf.1.2⟩, hf.2⟩⟩

/-- One rewrite of the slides keeps the runs tiling the alignment. -/
theorem SlideStep.tiled (hs : SlideStep old new rs rs') (h : Tiled old new x rs y) :
    Tiled old new x rs' y := by
  cases hs with
  | @swap pre post a b h₁ h₂ h₃ =>
    have h' : Tiled old new x (pre ++ [a, b] ++ post) y := by simpa using h
    simpa using h'.replace (fun _ _ => aligned_swap h₁ h₂ h₃) fun hf => by simp at hf ⊢; omega
  | @merge pre post a b h₁ h₂ =>
    have h' : Tiled old new x (pre ++ [a, b] ++ post) y := by simpa using h
    simpa using h'.replace (fun _ _ => aligned_merge h₁ h₂) fun hf => by simp at hf ⊢; omega
  | @erase pre post r h₁ =>
    have h' : Tiled old new x (pre ++ [r] ++ post) y := by simpa using h
    have hmid : ∀ a b, Aligned old new a [r] b → Aligned old new a [] b :=
      fun _ _ hr => aligned_nil.2 (aligned_empty_run h₁ hr)
    simpa using h'.replace hmid fun _ => filled_nil
  | @up pre post prev cur s hroom =>
    have h' : Tiled old new x (pre ++ [prev, cur] ++ post) y := by simpa using h
    simpa using h'.replace (fun _ _ h => aligned_dropEmpty_cons (aligned_up hroom h)) fun hf => by
      simp at hf ⊢; exact ⟨filled_dropEmpty _, hf.2, hroom.pos⟩
  | @upInto pre post prev cur next s hroom hnext =>
    have h' : Tiled old new x (pre ++ [prev, cur, next] ++ post) y := by simpa using h
    simpa using h'.replace (fun _ _ h => aligned_dropEmpty_cons (aligned_upInto hroom hnext h))
      fun hf => by simp at hf ⊢; exact ⟨filled_dropEmpty _, hf.2.1, by omega⟩
  | @down pre post cur next s hroom =>
    have h' : Tiled old new x (pre ++ [cur, next] ++ post) y := by simpa using h
    have hmid : ∀ a b, Aligned old new a [cur, next] b → Aligned old new a
        ([⟨.keep, next.oldStart, cur.newStart, s⟩, cur.shiftRight s] ++
          dropEmpty (next.shrinkRight s)) b :=
      fun _ _ h => aligned_append_dropEmpty (aligned_down hroom h)
    simpa using h'.replace hmid fun hf => by
      simp at hf; simpa [filled_dropEmpty, hroom.pos] using hf.1
  | @downInto pre post prev cur next s hroom hprev =>
    have h' : Tiled old new x (pre ++ [prev, cur, next] ++ post) y := by simpa using h
    have hmid : ∀ a b, Aligned old new a [prev, cur, next] b → Aligned old new a
        ([prev.growRight s, cur.shiftRight s] ++ dropEmpty (next.shrinkRight s)) b :=
      fun _ _ h => aligned_append_dropEmpty (aligned_downInto hroom hprev h)
    simpa using h'.replace hmid fun hf => by
      simp at hf; simpa [filled_dropEmpty, hroom.pos] using hf.2.1

/-- Every sequence of slides keeps the runs tiling the alignment. -/
theorem Tiled.slides (h : Relation.ReflTransGen (SlideStep old new) rs rs')
    (ht : Tiled old new x rs y) : Tiled old new x rs' y := by
  induction h with
  | refl => exact ht
  | tail _ hs ih => exact hs.tiled ih

end Steps

/-! ### Room to move -/

section Rooms

variable {old new : Array String} {prev cur next : Run}

theorem upRoom_of_pos (hp : prev.move = .keep) (hc : cur.move ≠ .keep)
    (hs : 0 < upwardRoom old new prev cur) :
    UpRoom old new prev cur (upwardRoom old new prev cur) := by
  obtain ⟨hs₁, hs₂, hagree⟩ : upwardRoom old new prev cur ≤ prev.oldEnd - prev.oldStart ∧
      upwardRoom old new prev cur ≤ cur.newEnd - cur.newStart ∧
      ∀ t < upwardRoom old new prev cur, old[prev.oldEnd - upwardRoom old new prev cur + t]? =
        new[cur.newEnd - upwardRoom old new prev cur + t]? :=
    commonSuffix_spec old prev.oldStart prev.oldEnd new cur.newStart cur.newEnd
  generalize upwardRoom old new prev cur = s at hs hs₁ hs₂ hagree ⊢
  have hold := prev.oldEnd_of_move (by simp [hp])
  -- a deletion covers no new line, so only an insertion has room
  have hadd : cur.move = .add := by
    cases hm : cur.move
    · exact absurd hm hc
    · simp [Run.newEnd, Run.newLen, hm] at hs₂
      omega
    · rfl
  have hnew := cur.newEnd_of_move (by simp [hadd])
  rw [hold, hnew] at hagree
  exact ⟨hp, hadd, hs, by omega, by omega, hagree⟩

theorem downRoom_of_pos (hc : cur.move ≠ .keep) (hn : next.move = .keep)
    (hs : 0 < downwardRoom old new cur next) :
    DownRoom old new cur next (downwardRoom old new cur next) := by
  obtain ⟨hs₁, hs₂, hagree⟩ : downwardRoom old new cur next ≤ next.oldEnd - next.oldStart ∧
      downwardRoom old new cur next ≤ cur.newEnd - cur.newStart ∧
      ∀ t < downwardRoom old new cur next, old[next.oldStart + t]? = new[cur.newStart + t]? :=
    commonPrefix_spec old next.oldStart next.oldEnd new cur.newStart cur.newEnd
  generalize downwardRoom old new cur next = s at hs hs₁ hs₂ hagree ⊢
  have hold := next.oldEnd_of_move (by simp [hn])
  have hadd : cur.move = .add := by
    cases hm : cur.move
    · exact absurd hm hc
    · simp [Run.newEnd, Run.newLen, hm] at hs₂
      omega
    · rfl
  have hnew := cur.newEnd_of_move (by simp [hadd])
  exact ⟨hadd, hn, hs, by omega, by omega, hagree⟩

theorem exists_keep_after {pre post : List Run}
    (h : keepsAt (pre ++ prev :: cur :: post) (pre.length.succ + 1) = true) :
    ∃ next post', post = next :: post' ∧ next.move = .keep := by
  rw [show pre.length.succ + 1 = pre.length + 2 from rfl, keepsAt_split] at h
  cases post with
  | nil => simp [keepsAt] at h
  | cons next post => exact ⟨next, post, rfl, by simpa [keepsAt] using h⟩

theorem exists_keep_before {pre rest : List Run}
    (h : (decide (0 < pre.length) && keepsAt (pre ++ rest) (pre.length - 1)) = true) :
    ∃ pre' prev, pre = pre' ++ [prev] ∧ prev.move = .keep := by
  obtain ⟨hp, hk⟩ := Bool.and_eq_true_iff.1 h
  obtain ⟨pre', prev, rfl⟩ := (List.eq_nil_or_concat' pre).resolve_left (by rintro rfl; simp at hp)
  exact ⟨pre', prev, rfl, by simpa [keepsAt] using hk⟩

end Rooms

end Linewise.Align
