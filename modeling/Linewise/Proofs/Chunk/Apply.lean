import Linewise.Proofs.Chunk.Placement
/-! Applying several fixes of one extraction. The fixes go in from the chunk starting lowest up;
each rewrite leaves the text above its target as it was, where the exact-context pattern of every
fix still to come stands first. So when each pattern occurs once, every fix is applied by exact
context, each target text exchanged for its fix where it starts. -/
namespace Linewise.Chunk

open Text

def spliceAtLine (s : String) (t : List Char) (r : Nat × String × String) : List Char :=
  splice t (lineStart s r.1) r.2.1.length r.2.2.toList

/-- The text `s` with, for each `(n, old, new)`, the `old.length` characters from the start of
line `n` exchanged for `new`. The exchanges are made from the last line up, so each is made
where it stands in `s`. -/
def replaceAtLines (s : String) (rs : List (Nat × String × String)) : String :=
  String.ofList ((rs.mergeSort fun a b => b.1 ≤ a.1).foldl (spliceAtLine s) s.toList)

example : replaceAtLines "ab\ncd\nef" [(0, "ab", "X"), (2, "e", "YZ")] = "X\ncd\nYZf" := by cbv

def applyStep (opts : ChunkOptions) (acc : String × List (Nat × FixStatus))
    (x : Nat × CodeChunk × String) : String × List (Nat × FixStatus) :=
  ((applyOne opts acc.1 x.2).1, acc.2 ++ [(x.1, (applyOne opts acc.1 x.2).2)])

theorem applyChunkFixes_eq_foldl (content : String) (fixes : List (CodeChunk × String))
    (opts : ChunkOptions) :
    applyChunkFixes content fixes opts =
      ⟨((fixOrder fixes).foldl (applyStep opts) (content, [])).1,
        ((((fixOrder fixes).foldl (applyStep opts) (content, [])).2.mergeSort
          fun a b => a.1 ≤ b.1).map Prod.snd)⟩ := rfl

theorem applyOne_of_first (opts : ChunkOptions) {t : String} {c : CodeChunk} {f : String}
    {q : Nat} (hne : exactPattern c ≠ "") (hat : (exactPattern c).toList <+: t.toList.drop q)
    (hfirst : ∀ r < q, ¬ (exactPattern c).toList <+: t.toList.drop r) :
    applyOne opts t (c, f) =
      (String.ofList (splice t.toList q (exactPattern c).length
        (joinPresent [c.contextBefore, f, c.contextAfter]).toList), .applied .exactContext) := by
  have hcont : contains t (exactPattern c) = true := contains_iff.2 ⟨q, hat⟩
  simp only [applyOne, relocateChunk_of_contains f opts hne hcont,
    replaceFirst_eq_splice hne hat hfirst]

theorem eq_mergeSort_of_pairwise_lt {α : Type} {l m : List (Nat × α)} (hperm : l.Perm m)
    (hl : l.Pairwise (fun a b => b.1 < a.1)) : l = m.mergeSort (fun a b => b.1 ≤ a.1) := by
  have hsorted := @List.pairwise_mergeSort _ (fun a b : Nat × α => decide (b.1 ≤ a.1))
    (by intro a b c hab hbc; simp only [decide_eq_true_eq] at hab hbc ⊢; omega)
    (by intro a b; simp only [Bool.or_eq_true, decide_eq_true_eq]; omega) m
  have hperm' := hperm.trans (List.mergeSort_perm m fun a b => decide (b.1 ≤ a.1)).symm
  refine List.Perm.eq_of_pairwise (fun a b ha hb hab hba => ?_) (hl.imp le_of_lt)
    (hsorted.imp of_decide_eq_true) hperm'
  -- two elements of `l` with one first component are one element
  by_contra hne
  have hlt := @List.Pairwise.forall _ (fun a b : Nat × α => a.1 ≠ b.1) _ ⟨fun _ _ h => Ne.symm h⟩
    (hl.imp fun h => (Nat.ne_of_lt h).symm) a ha b (hperm'.symm.subset hb) hne
  omega

theorem map_snd_fixOrder_perm (fixes : List (CodeChunk × String)) :
    ((fixOrder fixes).map Prod.snd).Perm fixes := by
  unfold fixOrder
  refine ((List.mergeSort_perm _ _).map Prod.snd).trans (List.Perm.of_eq ?_)
  rw [List.map_map]
  exact (List.map_congr_left fun x _ => by obtain ⟨f, i⟩ := x; rfl).trans (List.zipIdx_map_fst 0 fixes)

theorem pairwise_fixOrder (fixes : List (CodeChunk × String)) :
    (fixOrder fixes).Pairwise (fun a b => b.2.1.startLine ≤ a.2.1.startLine) := by
  unfold fixOrder
  refine List.Pairwise.imp of_decide_eq_true (List.pairwise_mergeSort ?_ ?_ _)
  · intro a b c hab hbc
    simp only [decide_eq_true_eq] at hab hbc ⊢
    omega
  · intro a b
    simp only [Bool.or_eq_true, decide_eq_true_eq]
    omega

/-! ## The run -/

section Run

variable (S A B : String) (opts : ChunkOptions)

/-- Fix `(c, f)` can be applied by exact context to `S` placed between `A` and `B`: the fix and
the target text are not empty, and the chunk's exact-context pattern stands at its place in `S`
and nowhere else in the whole text. -/
structure ExactSite (c : CodeChunk) (f : String) : Prop where
  fixed_ne : f ≠ ""
  core_ne : c.coreText ≠ ""
  lead_le : (leadOf c.contextBefore).length ≤ lineStart S c.targetStart
  at_start : (exactPattern c).toList <+: S.toList.drop (patternStart S c)
  unique : ∀ r, (exactPattern c).toList <+: (A ++ S ++ B).toList.drop r →
    r = A.length + patternStart S c

variable {S A B}

theorem ExactSite.pattern_eq {c : CodeChunk} {f : String} (hx : ExactSite S A B c f) :
    (exactPattern c).toList = (leadOf c.contextBefore).toList ++ c.coreText.toList ++
      (trailOf c.contextAfter).toList := by
  rw [exactPattern, joinPresent_around _ _ _ hx.core_ne, String.toList_append,
    String.toList_append]

theorem ExactSite.lineStart_le_patternEnd {c : CodeChunk} {f : String}
    (hx : ExactSite S A B c f) :
    lineStart S c.targetStart + c.coreText.length ≤ patternEnd S c := by
  have hlen := congrArg List.length hx.pattern_eq
  simp only [List.length_append, String.length_toList] at hlen
  have hlead := hx.lead_le
  rw [patternEnd, patternStart]
  omega

theorem applyStep_exact {u : List Char} {done : List (Nat × FixStatus)} {p : Nat}
    {x : Nat × CodeChunk × String} (hp : p ≤ S.length) (hu : u.take p = S.toList.take p)
    (hx : ExactSite S A B x.2.1 x.2.2) (hxp : patternEnd S x.2.1 ≤ p) :
    applyStep opts (String.ofList (A.toList ++ u ++ B.toList), done) x =
      (String.ofList (A.toList ++ spliceAtLine S u (x.2.1.targetStart, x.2.1.coreText, x.2.2) ++
        B.toList), done ++ [(x.1, .applied .exactContext)]) := by
  obtain ⟨i, c, f⟩ := x
  simp only at hx hxp ⊢
  have hpu : p ≤ u.length := by
    have := congrArg List.length hu
    simp only [List.length_take, String.length_toList] at this
    omega
  have hne := exactPattern_ne_empty hx.core_ne
  -- the current text agrees with the original one below `p`
  have hagree : (A.toList ++ u ++ B.toList).take (A.length + p) =
      (A ++ S ++ B).toList.take (A.length + p) := by
    rw [String.toList_append, String.toList_append, ← String.length_toList,
      take_append_left_add hpu, take_append_left_add (by rw [String.length_toList]; exact hp), hu]
  have hat : (exactPattern c).toList <+: (A ++ S ++ B).toList.drop (A.length + patternStart S c) := by
    rw [String.toList_append, String.toList_append, ← String.length_toList]
    exact prefix_drop_append hx.at_start
  have hend : A.length + patternStart S c + (exactPattern c).toList.length ≤ A.length + p := by
    rw [String.length_toList]
    exact Nat.add_assoc _ _ _ ▸ Nat.add_le_add_left hxp _
  obtain ⟨hat', hfirst⟩ := first_of_agree hat hend hagree hx.unique
  have ht : (String.ofList (A.toList ++ u ++ B.toList)).toList = A.toList ++ u ++ B.toList :=
    String.toList_ofList
  rw [← ht] at hat' hfirst
  simp only [applyStep]
  rw [applyOne_of_first opts hne hat' hfirst, ht]
  simp only
  rw [show (exactPattern c).length = (exactPattern c).toList.length from String.length_toList.symm,
    hx.pattern_eq, joinPresent_around _ _ _ hx.fixed_ne, String.toList_append, String.toList_append]
  rw [ht, hx.pattern_eq] at hat'
  -- the exchange of the whole pattern is one of the target text only, inside `S`
  have hpos : A.length + patternStart S c + (leadOf c.contextBefore).toList.length =
      A.toList.length + lineStart S c.targetStart := by
    rw [String.length_toList, String.length_toList, patternStart]
    have := hx.lead_le
    omega
  have hfit : lineStart S c.targetStart + c.coreText.toList.length ≤ u.length := by
    have := hx.lineStart_le_patternEnd
    rw [String.length_toList]
    omega
  rw [splice_middle hat', hpos, splice_frame hfit]
  simp only [spliceAtLine, String.length_toList]

/-- The run: fixes taken from the lowest up, each with its pattern ending before the target of
every fix applied before it, are all applied by exact context, and together exchange each target
text where it starts in `S`. The induction is on the fixes still to apply, with the bound `p`
below which the current text agrees with `S` moving up to each applied target. -/
theorem foldl_applyStep_exact : ∀ (ord : List (Nat × CodeChunk × String)) (u : List Char)
    (done : List (Nat × FixStatus)) (p : Nat), p ≤ S.length → u.take p = S.toList.take p →
    (∀ x ∈ ord, ExactSite S A B x.2.1 x.2.2 ∧ patternEnd S x.2.1 ≤ p) →
    ord.Pairwise (fun x y => patternEnd S y.2.1 ≤ lineStart S x.2.1.targetStart) →
    ord.foldl (applyStep opts) (String.ofList (A.toList ++ u ++ B.toList), done) =
      (String.ofList (A.toList ++ (ord.map fun x => (x.2.1.targetStart, x.2.1.coreText, x.2.2)).foldl
        (spliceAtLine S) u ++ B.toList), done ++ ord.map fun x => (x.1, .applied .exactContext))
  | [], u, done, _, _, _, _, _ => by simp
  | x :: ord, u, done, p, hp, hu, hsites, hpw => by
    obtain ⟨hx, hxp⟩ := hsites x List.mem_cons_self
    obtain ⟨hhead, htail⟩ := List.pairwise_cons.1 hpw
    have hstart := hx.lineStart_le_patternEnd
    have hpu : lineStart S x.2.1.targetStart ≤ u.length := by
      have := congrArg List.length hu
      simp only [List.length_take, String.length_toList] at this
      omega
    rw [List.foldl_cons, applyStep_exact opts hp hu hx hxp, List.map_cons, List.foldl_cons,
      foldl_applyStep_exact ord _ _ (lineStart S x.2.1.targetStart) (by omega) ?_
        (fun y hy => ⟨(hsites y (List.mem_cons_of_mem _ hy)).1, hhead y hy⟩) htail]
    · simp
    · have hbelow := congrArg (List.take (lineStart S x.2.1.targetStart)) hu
      simp only [List.take_take, Nat.min_eq_left (show lineStart S x.2.1.targetStart ≤ p by omega)]
        at hbelow
      simp only [spliceAtLine]
      rw [take_splice hpu, hbelow]

theorem ExactSite.patternEnd_le_length {c : CodeChunk} {f : String} (hx : ExactSite S A B c f) :
    patternEnd S c ≤ S.length := by
  have hnot : (exactPattern c).toList ≠ [] :=
    fun h => exactPattern_ne_empty hx.core_ne (String.toList_eq_nil_iff.1 h)
  have h := le_length_of_prefix_drop hnot hx.at_start
  rw [String.length_toList, String.length_toList] at h
  exact h

theorem exactSite_of_mem {src : BlockSource} {keywords : List String} {path : String}
    {c : CodeChunk} {f : String} (hS : '\r' ∉ S.toList)
    (hc : c ∈ extractChunksWith src S keywords path opts) (hsig : c.signature ≠ "") (hf : f ≠ "")
    (hone : occurrenceCount (A ++ S ++ B) (exactPattern c) = 1) : ExactSite S A B c f := by
  obtain ⟨s, e, h⟩ := exists_buildChunk_of_mem hc
  obtain ⟨hlead, hat, -⟩ := exactPattern_at hS h hsig
  have hcore := coreText_ne_empty hS h hsig
  have hne := exactPattern_ne_empty hcore
  have hwhole : (exactPattern c).toList <+: (A ++ S ++ B).toList.drop (A.length + patternStart S c) := by
    rw [String.toList_append, String.toList_append, ← String.length_toList]
    exact prefix_drop_append hat
  exact ⟨hf, hcore, hlead, hat, fun r hr => eq_of_occurrenceCount_eq_one hne hone hr hwhole⟩

end Run

/-- Fixes of different chunks of one extraction of `S`, with signatures and fixes that are not
empty, and each with an exact-context pattern occurring once in the text `A ++ S ++ B`, are all
applied by exact context whatever order they are given in, and together exchange the target text
of each chunk for its fix where that text starts in `S`. -/
theorem applyChunkFixes_extracted (src : BlockSource) (S A B : String) (keywords : List String)
    (path : String) (opts : ChunkOptions) (hS : '\r' ∉ S.toList)
    (fixes : List (CodeChunk × String))
    (hmem : ∀ fx ∈ fixes, fx.1 ∈ extractChunksWith src S keywords path opts)
    (hdistinct : (fixes.map Prod.fst).Nodup) (hsig : ∀ fx ∈ fixes, fx.1.signature ≠ "")
    (hfixed : ∀ fx ∈ fixes, fx.2 ≠ "")
    (hunique : ∀ fx ∈ fixes, occurrenceCount (A ++ S ++ B)
      (joinPresent [fx.1.contextBefore, fx.1.coreText, fx.1.contextAfter]) = 1) :
    applyChunkFixes (A ++ S ++ B) fixes opts =
      ⟨A ++ replaceAtLines S (fixes.map fun fx => (fx.1.targetStart, fx.1.coreText, fx.2)) ++ B,
        fixes.map fun _ => .applied .exactContext⟩ := by
  have hperm := map_snd_fixOrder_perm fixes
  have hin : ∀ x ∈ fixOrder fixes, x.2 ∈ fixes := fun x hx =>
    hperm.subset (List.mem_map_of_mem hx)
  have hsite : ∀ x ∈ fixOrder fixes, ExactSite S A B x.2.1 x.2.2 := fun x hx =>
    exactSite_of_mem opts hS (hmem _ (hin x hx)) (hsig _ (hin x hx)) (hfixed _ (hin x hx))
      (hunique _ (hin x hx))
  -- a fix applied later stands higher in the text, its pattern ending before earlier targets
  have hdiff : (fixOrder fixes).Pairwise (fun x y => x.2.1 ≠ y.2.1) := by
    have hnd : ((fixOrder fixes).map fun x => x.2.1).Nodup := by
      rw [show ((fixOrder fixes).map fun x => x.2.1) = ((fixOrder fixes).map Prod.snd).map Prod.fst
        by rw [List.map_map]; rfl]
      exact (hperm.map Prod.fst).nodup_iff.2 hdistinct
    exact List.pairwise_map.1 hnd
  have hpw : (fixOrder fixes).Pairwise
      (fun x y => patternEnd S y.2.1 ≤ lineStart S x.2.1.targetStart) :=
    ((pairwise_fixOrder fixes).and hdiff).imp_of_mem fun hx hy hxy =>
      (patternEnd_lt_of_startLine_le hS (hmem _ (hin _ hx)) (hmem _ (hin _ hy)) hxy.2
        (hsig _ (hin _ hx)) (hsig _ (hin _ hy)) hxy.1).le
  have hT : A ++ S ++ B = String.ofList (A.toList ++ S.toList ++ B.toList) := by
    rw [← String.toList_append, ← String.toList_append, String.ofList_toList]
  rw [applyChunkFixes_eq_foldl, hT, foldl_applyStep_exact opts (fixOrder fixes) S.toList [] S.length
    le_rfl rfl (fun x hx => ⟨hsite x hx, (hsite x hx).patternEnd_le_length⟩) hpw]
  -- the fixes are applied in the order `replaceAtLines` makes its exchanges in
  have hdesc : ((fixOrder fixes).map fun x => (x.2.1.targetStart, x.2.1.coreText, x.2.2)).Pairwise
      (fun a b => b.1 < a.1) := by
    rw [List.pairwise_map]
    refine hpw.imp_of_mem ?_
    intro x y hx hy hxy
    simp only
    have hend := (hsite y hy).lineStart_le_patternEnd
    have hcore : y.2.1.coreText.length ≠ 0 := fun h =>
      (hsite y hy).core_ne (String.length_eq_zero_iff.1 h)
    by_contra hge
    have := lineStart_mono S (Nat.le_of_not_lt hge)
    omega
  have hperm' : ((fixOrder fixes).map fun x => (x.2.1.targetStart, x.2.1.coreText, x.2.2)).Perm
      (fixes.map fun fx => (fx.1.targetStart, fx.1.coreText, fx.2)) := by
    have h := hperm.map fun fx => (fx.1.targetStart, fx.1.coreText, fx.2)
    rwa [List.map_map] at h
  have hsort := eq_mergeSort_of_pairwise_lt hperm' hdesc
  simp only [List.nil_append]
  congr 1
  · rw [hsort, replaceAtLines, ← String.toList_inj]
    simp only [String.toList_ofList, String.toList_append]
  · rw [List.map_const', List.eq_replicate_iff]
    refine ⟨by simpa using hperm.length_eq, fun b hb => ?_⟩
    obtain ⟨y, hy, rfl⟩ := List.mem_map.1 hb
    obtain ⟨x, -, rfl⟩ := List.mem_map.1 ((List.mergeSort_perm _ _).subset hy)
    rfl


/-- Fixes of the two class chunks of a text, given from the top down, both applied by exact
context. -/
theorem applyChunkFixes_two_classes :
    applyChunkFixes ("x\n" ++ "a\nb\nc\nd\ne\nf\ng\n" ++ "y\n")
        [(⟨0, 2, "a\nb\nc", "b", "m.py", "a", "c", 1, 1⟩, "B"),
          (⟨4, 6, "e\nf\ng", "f", "m.py", "e", "g", 5, 5⟩, "F")] ⟨1, none⟩ =
      ⟨"x\na\nB\nc\nd\ne\nF\ng\ny\n", [.applied .exactContext, .applied .exactContext]⟩ := by
  have hC : extractChunksWith ⟨fun _ => some [⟨.classDef, 1, 1⟩, ⟨.classDef, 5, 5⟩], fun _ => []⟩
      "a\nb\nc\nd\ne\nf\ng\n" [] "m.py" ⟨1, none⟩ =
      [⟨0, 2, "a\nb\nc", "b", "m.py", "a", "c", 1, 1⟩, ⟨4, 6, "e\nf\ng", "f", "m.py", "e", "g", 5, 5⟩] := by
    cbv
  rw [applyChunkFixes_extracted ⟨fun _ => some [⟨.classDef, 1, 1⟩, ⟨.classDef, 5, 5⟩], fun _ => []⟩
    "a\nb\nc\nd\ne\nf\ng\n" "x\n" "y\n" [] "m.py" ⟨1, none⟩ (by decide) _ (by rw [hC]; decide)
    (by decide) (by decide) (by decide) (by decide)]
  cbv

end Linewise.Chunk
