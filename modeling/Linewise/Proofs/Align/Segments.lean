import Linewise.Proofs.Align.SlidesEnd
import Linewise.Align.Segment
/-! The segments of an alignment: their old and new ranges tile both sides in order, each has the
shape its tag asks for, equal segments cover equal lines, and equal and changed ones alternate.
A deletion exchanged with an insertion keeps its stale new position, and an insertion its old. -/
namespace Linewise.Align

namespace Segment

def oldSpan? (s : Segment) : Option (Nat × Nat) :=
  if s.tag = .insert then none else some (s.oldStart, s.oldEnd)

def newSpan? (s : Segment) : Option (Nat × Nat) :=
  if s.tag = .delete then none else some (s.newStart, s.newEnd)

/-- The ranges a segment's tag asks for: an equal segment has two non-empty ranges of one length
over equal lines, a replacement two non-empty ranges, a deletion a non-empty old range and an
empty new one, an insertion the other way round. -/
def Shaped (old new : Array String) (s : Segment) : Prop :=
  match s.tag with
  | .equal => s.oldStart < s.oldEnd ∧ s.newLen = s.oldLen ∧
      ∀ t < s.oldLen, old[s.oldStart + t]? = new[s.newStart + t]?
  | .replace => s.oldStart < s.oldEnd ∧ s.newStart < s.newEnd
  | .delete => s.oldStart < s.oldEnd ∧ s.newStart = s.newEnd
  | .insert => s.oldStart = s.oldEnd ∧ s.newStart < s.newEnd

/-- Of two neighbouring segments exactly one is equal. -/
def Alternate (s t : Segment) : Prop := s.tag = .equal ↔ t.tag ≠ .equal

end Segment

/-- Segments `segs` align the old lines from `p.1` to `q.1` with the new lines from `p.2` to
`q.2`. -/
structure Script (old new : Array String) (p : Nat × Nat) (segs : List Segment) (q : Nat × Nat) :
    Prop where
  olds : Tiles p.1 (segs.filterMap Segment.oldSpan?) q.1
  news : Tiles p.2 (segs.filterMap Segment.newSpan?) q.2
  shaped : ∀ s ∈ segs, s.Shaped old new
  alternate : segs.IsChain Segment.Alternate

section Script

variable {old new : Array String} {p q r : Nat × Nat} {xs ys : List Segment} {s : Segment}

theorem script_nil : Script old new p [] q ↔ p = q := by
  constructor
  · rintro ⟨ho, hn, -, -⟩
    exact Prod.ext ho hn
  · rintro rfl
    exact ⟨rfl, rfl, by simp, .nil⟩

theorem script_singleton : Script old new p [s] q ↔
    Tiles p.1 s.oldSpan?.toList q.1 ∧ Tiles p.2 s.newSpan?.toList q.2 ∧ s.Shaped old new := by
  constructor
  · rintro ⟨ho, hn, hs, -⟩
    refine ⟨?_, ?_, hs s (.head _)⟩ <;> cases h : s.oldSpan? <;> cases h' : s.newSpan? <;>
      simp_all
  · rintro ⟨ho, hn, hs⟩
    refine ⟨?_, ?_, by simpa using hs, .singleton _⟩ <;> cases h : s.oldSpan? <;>
      cases h' : s.newSpan? <;> simp_all

theorem Script.append (h₁ : Script old new p xs q) (h₂ : Script old new q ys r)
    (halt : ∀ x ∈ xs.getLast?, ∀ y ∈ ys.head?, x.Alternate y) :
    Script old new p (xs ++ ys) r where
  olds := by rw [List.filterMap_append, tiles_append]; exact ⟨q.1, h₁.olds, h₂.olds⟩
  news := by rw [List.filterMap_append, tiles_append]; exact ⟨q.2, h₁.news, h₂.news⟩
  shaped := List.forall_mem_append.2 ⟨h₁.shaped, h₂.shaped⟩
  alternate := h₁.alternate.append h₂.alternate halt

theorem Segment.Shaped.oldSpan_lt (hs : s.Shaped old new) {sp : Nat × Nat}
    (h : s.oldSpan? = some sp) : sp.1 < sp.2 := by
  unfold Segment.oldSpan? at h
  split at h
  · cases h
  · cases h
    rename_i hins
    cases ht : s.tag <;> simp only [Segment.Shaped, ht] at hs hins
    · exact hs.1
    · exact hs.1
    · exact hs.1
    · exact absurd trivial hins

theorem Segment.Shaped.newSpan_lt (hs : s.Shaped old new) {sp : Nat × Nat}
    (h : s.newSpan? = some sp) : sp.1 < sp.2 := by
  unfold Segment.newSpan? at h
  split at h
  · cases h
  · cases h
    rename_i hdel
    cases ht : s.tag <;> simp only [Segment.Shaped, ht] at hs hdel
    · -- an equal segment's new range is as long as its non-empty old one
      obtain ⟨hlt, hlen, -⟩ := hs
      unfold Segment.newLen Segment.oldLen at hlen
      dsimp only
      omega
    · exact hs.2
    · exact absurd trivial hdel
    · exact hs.2

theorem Script.oldSpan_lt (h : Script old new p xs q) :
    ∀ t ∈ xs.filterMap Segment.oldSpan?, t.1 < t.2 := by
  intro t ht
  obtain ⟨u, hu, hut⟩ := List.mem_filterMap.1 ht
  exact (h.shaped u hu).oldSpan_lt hut

theorem Script.newSpan_lt (h : Script old new p xs q) :
    ∀ t ∈ xs.filterMap Segment.newSpan?, t.1 < t.2 := by
  intro t ht
  obtain ⟨u, hu, hut⟩ := List.mem_filterMap.1 ht
  exact (h.shaped u hu).newSpan_lt hut

theorem Script.eq_nil_iff {a b : Nat} (h : Script old new (0, 0) xs (a, b)) :
    xs = [] ↔ a = 0 ∧ b = 0 := by
  constructor
  · rintro rfl
    obtain ⟨ho, hn⟩ := Prod.ext_iff.1 (script_nil.1 h)
    exact ⟨ho.symm, hn.symm⟩
  · rintro ⟨rfl, rfl⟩
    have ho := h.olds.eq_nil h.oldSpan_lt
    have hn := h.news.eq_nil h.newSpan_lt
    cases xs with
    | nil => rfl
    | cons s xs =>
      -- the first segment covers a line on one side, so that side's ranges are not none
      by_cases hins : s.tag = .insert
      · simp [Segment.newSpan?, hins] at hn
      · simp [Segment.oldSpan?, hins] at ho

end Script

/-! ### Folding runs into segments -/

namespace Folding

/-- A fold that has read runs aligning the lines up to `q`: what it has written is a script up to
where its pending stretch starts, and the pending stretch reaches `q`. An equal stretch is pending
after a written change, a change after a written equal segment. -/
inductive Reads (old new : Array String) : Folding → Nat × Nat → Prop
  | start : Reads old new {} (0, 0)
  | keeping {done : Array Segment} {o n l : Nat} :
      Script old new (0, 0) done.toList (o, n) → (∀ s ∈ done.toList.getLast?, s.tag ≠ .equal) →
      0 < l → (∀ t < l, old[o + t]? = new[n + t]?) →
      Reads old new ⟨done, some (o, n, l), none, none⟩ (o + l, n + l)
  | deleting {done : Array Segment} {o l n y : Nat} :
      Script old new (0, 0) done.toList (o, y) → (∀ s ∈ done.toList.getLast?, s.tag = .equal) →
      0 < l → Reads old new ⟨done, none, some (o, l, n), none⟩ (o + l, y)
  | inserting {done : Array Segment} {x o n k : Nat} :
      Script old new (0, 0) done.toList (x, n) → (∀ s ∈ done.toList.getLast?, s.tag = .equal) →
      0 < k → Reads old new ⟨done, none, none, some (o, n, k)⟩ (x, n + k)
  | replacing {done : Array Segment} {o l n' o' n k : Nat} :
      Script old new (0, 0) done.toList (o, n) → (∀ s ∈ done.toList.getLast?, s.tag = .equal) →
      0 < l → 0 < k → Reads old new ⟨done, none, some (o, l, n'), some (o', n, k)⟩ (o + l, n + k)

variable {old new : Array String} {f : Folding} {q : Nat × Nat}

theorem Reads.script (h : Reads old new f q) : Script old new (0, 0) f.finish q := by
  cases h with
  | start => exact script_nil.2 rfl
  | keeping hs hlast hl heq =>
    simp only [finish, flushKept, flushChange, Array.toList_push]
    refine hs.append (script_singleton.2 ?_) (by simpa [Segment.Alternate] using hlast)
    simpa [Segment.oldSpan?, Segment.newSpan?, Segment.Shaped, Segment.oldLen, Segment.newLen, hl]
      using heq
  | deleting hs hlast hl =>
    simp only [finish, flushKept, flushChange, Array.toList_push]
    refine hs.append (script_singleton.2 ?_) (by simpa [Segment.Alternate] using hlast)
    simp [Segment.oldSpan?, Segment.newSpan?, Segment.Shaped, hl]
  | inserting hs hlast hk =>
    simp only [finish, flushKept, flushChange, Array.toList_push]
    refine hs.append (script_singleton.2 ?_) (by simpa [Segment.Alternate] using hlast)
    simp [Segment.oldSpan?, Segment.newSpan?, Segment.Shaped, hk]
  | replacing hs hlast hl hk =>
    simp only [finish, flushKept, flushChange, Array.toList_push]
    refine hs.append (script_singleton.2 ?_) (by simpa [Segment.Alternate] using hlast)
    simp [Segment.oldSpan?, Segment.newSpan?, Segment.Shaped, hl, hk]

variable {r : Run} {x y : Nat}

theorem Reads.keep (h : Reads old new f (x, y)) (hm : r.move = .keep) (hx : r.oldStart = x)
    (hy : r.newStart = y) (hl : 0 < r.len) (heq : ∀ t < r.len, old[x + t]? = new[y + t]?) :
    Reads old new (f.step r) (x + r.len, y + r.len) := by
  have hw := h.script
  cases h with
  | start =>
    simp only [step, hm, flushChange, hx, hy]
    exact .keeping (script_nil.2 rfl) (by simp) hl heq
  | @keeping done o n l hs hlast hl' heq' =>
    simp only [step, hm, flushChange]
    rw [Nat.add_assoc, Nat.add_assoc]
    refine .keeping hs hlast (by omega) fun t ht => ?_
    -- the stretch read so far, then the new run right after it
    by_cases htl : t < l
    · exact heq' t htl
    · have := heq (t - l) (by omega)
      rwa [Nat.add_assoc, Nat.add_sub_cancel' (by omega), Nat.add_assoc,
        Nat.add_sub_cancel' (by omega)] at this
  | deleting hs hlast hl' =>
    simp only [finish, flushKept, flushChange] at hw
    simp only [step, hm, flushChange, hx, hy]
    exact .keeping hw (by simp) hl heq
  | inserting hs hlast hk =>
    simp only [finish, flushKept, flushChange] at hw
    simp only [step, hm, flushChange, hx, hy]
    exact .keeping hw (by simp) hl heq
  | replacing hs hlast hl' hk =>
    simp only [finish, flushKept, flushChange] at hw
    simp only [step, hm, flushChange, hx, hy]
    exact .keeping hw (by simp) hl heq

theorem Reads.drop (h : Reads old new f (x, y)) (hm : r.move = .drop) (hx : r.oldStart = x)
    (hl : 0 < r.len) : Reads old new (f.step r) (x + r.len, y) := by
  have hw := h.script
  cases h with
  | start =>
    simp only [step, hm, flushKept, hx]
    exact .deleting (script_nil.2 rfl) (by simp) hl
  | keeping hs hlast hl' heq' =>
    simp only [finish, flushKept, flushChange] at hw
    simp only [step, hm, flushKept, hx]
    exact .deleting hw (by simp) hl
  | deleting hs hlast hl' =>
    simp only [step, hm, flushKept]
    rw [Nat.add_assoc]
    exact .deleting hs hlast (by omega)
  | inserting hs hlast hk =>
    simp only [step, hm, flushKept, hx]
    exact .replacing hs hlast hl hk
  | replacing hs hlast hl' hk =>
    simp only [step, hm, flushKept]
    rw [Nat.add_assoc]
    exact .replacing hs hlast (by omega) hk

theorem Reads.add (h : Reads old new f (x, y)) (hm : r.move = .add) (hy : r.newStart = y)
    (hl : 0 < r.len) : Reads old new (f.step r) (x, y + r.len) := by
  have hw := h.script
  cases h with
  | start =>
    simp only [step, hm, flushKept, hy]
    exact .inserting (script_nil.2 rfl) (by simp) hl
  | keeping hs hlast hl' heq' =>
    simp only [finish, flushKept, flushChange] at hw
    simp only [step, hm, flushKept, hy]
    exact .inserting hw (by simp) hl
  | deleting hs hlast hl' =>
    simp only [step, hm, flushKept, hy]
    exact .replacing hs hlast hl' hl
  | inserting hs hlast hk =>
    simp only [step, hm, flushKept]
    rw [Nat.add_assoc]
    exact .inserting hs hlast (by omega)
  | replacing hs hlast hl' hk =>
    simp only [step, hm, flushKept]
    rw [Nat.add_assoc]
    exact .replacing hs hlast hl' (by omega)

theorem Reads.step {p : Nat × Nat} (h : Reads old new f p) (hr : Aligned old new p [r] q)
    (hl : 0 < r.len) : Reads old new (f.step r) q := by
  obtain ⟨x, y⟩ := p
  obtain ⟨x', y'⟩ := q
  obtain ⟨ho, hn, hk⟩ := hr
  cases hm : r.move with
  | keep =>
    simp [Run.oldSpan?, Run.newSpan?, hm] at ho hn
    obtain ⟨hx, rfl⟩ := ho
    obtain ⟨hy, rfl⟩ := hn
    have heq : ∀ t < r.len, old[x + t]? = new[y + t]? := by
      simpa [Run.KeepsEqual, hm, hx, hy] using hk
    simpa [hx, hy] using h.keep hm hx hy hl heq
  | drop =>
    simp [Run.oldSpan?, Run.newSpan?, hm] at ho hn
    obtain ⟨hx, rfl⟩ := ho
    subst hn
    simpa [hx] using h.drop hm hx hl
  | add =>
    simp [Run.oldSpan?, Run.newSpan?, hm] at ho hn
    obtain ⟨hy, rfl⟩ := hn
    subst ho
    simpa [hy] using h.add hm hy hl

theorem Reads.foldl {p : Nat × Nat} {rs : List Run} (h : Reads old new f p)
    (hrs : Tiled old new p rs q) : Reads old new (rs.foldl Folding.step f) q := by
  induction rs generalizing f p with
  | nil => rwa [List.foldl_nil, ← aligned_nil.1 hrs.1]
  | cons r rs ih =>
    obtain ⟨ha, hf⟩ := hrs
    obtain ⟨p', hr, hrest⟩ := aligned_append.1 (show Aligned old new p ([r] ++ rs) q from ha)
    exact ih (h.step hr (hf r (.head _))) ⟨hrest, fun u hu => hf u (.tail _ hu)⟩

end Folding

/-- Runs that tile the alignment fold into segments that make a script of it. -/
theorem Tiled.segmentsOfRuns {old new : Array String} {rs : List Run} {q : Nat × Nat}
    (h : Tiled old new (0, 0) rs q) : Script old new (0, 0) (segmentsOfRuns rs) q :=
  (Folding.Reads.start.foldl h).script

theorem script_segments (old new : Array String) :
    Script old new (0, 0) (segments old new) (old.size, new.size) :=
  (shortestRuns_tiled old new).slideChanges.segmentsOfRuns

/-- The segments of two line sequences align them: the old ranges of the segments that cover old
lines tile all old lines in order, the new ranges likewise, every segment has the shape its tag
asks for, equal segments cover equal lines, equal and changed segments alternate, and there are
no segments exactly when both sequences are empty. -/
theorem segments_align (old new : Array String) :
    Script old new (0, 0) (segments old new) (old.size, new.size) ∧
      (segments old new = [] ↔ old.size = 0 ∧ new.size = 0) :=
  ⟨script_segments old new, (script_segments old new).eq_nil_iff⟩

/-- Aligning `b a` with `a a`: the shortest alignment inserts `a`, deletes `b` and keeps `a`, and
sliding moves the insertion down past the deletion and then past the kept line. The deletion
keeps the new position 1 it had after the insertion, so the new ranges do not start at 0; the
insertion keeps the old position 1 it had before the kept line, which ends the old ranges at 2. -/
theorem segments_stale_empty_ranges :
    segments #["b", "a"] #["a", "a"] =
      [⟨.delete, 0, 1, 1, 1⟩, ⟨.equal, 1, 2, 0, 1⟩, ⟨.insert, 1, 1, 1, 2⟩] := by
  cbv

end Linewise.Align
