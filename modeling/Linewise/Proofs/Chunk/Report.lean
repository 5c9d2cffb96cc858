import Linewise.Proofs.Chunk.Apply
import Linewise.Proofs.Code.Headers
import Linewise.Proofs.Patch.Preview
/-! What applying fixes reports. The fixes are placed from the chunk starting lowest in the text
up, ties in the order given, each in the text the ones before it left; the report holds one
outcome per fix in the order given, since reading the outcomes back undoes the stable sort. -/
namespace Linewise.Chunk

/-! ## Placing fixes in turn -/

def placeFix (opts : ChunkOptions) (t : String) (f : CodeChunk × String) : String :=
  match relocateChunk t f.1 f.2 opts with
  | .ok r => r.newContent
  | .error _ => t

def fixOutcome (opts : ChunkOptions) (t : String) (f : CodeChunk × String) : FixStatus :=
  match relocateChunk t f.1 f.2 opts with
  | .ok r => .applied r.strategy
  | .error e => .failed e

def placeAll (opts : ChunkOptions) (t : String) (fs : List (CodeChunk × String)) : String :=
  fs.foldl (placeFix opts) t

/-- The outcome of each fix placed in turn from the text `t`, with the fix's position. -/
def outcomesInTurn (opts : ChunkOptions) :
    String → List (Nat × CodeChunk × String) → List (Nat × FixStatus)
  | _, [] => []
  | t, x :: xs => (x.1, fixOutcome opts t x.2) :: outcomesInTurn opts (placeFix opts t x.2) xs

section Turn

variable (opts : ChunkOptions)

theorem applyOne_eq (t : String) (f : CodeChunk × String) :
    applyOne opts t f = (placeFix opts t f, fixOutcome opts t f) := by
  unfold applyOne placeFix fixOutcome
  cases relocateChunk t f.1 f.2 opts <;> rfl

theorem foldl_applyStep : ∀ (ord : List (Nat × CodeChunk × String)) (t : String)
    (done : List (Nat × FixStatus)),
    ord.foldl (applyStep opts) (t, done) =
      (placeAll opts t (ord.map Prod.snd), done ++ outcomesInTurn opts t ord)
  | [], t, done => by simp [placeAll, outcomesInTurn]
  | x :: ord, t, done => by
    rw [List.foldl_cons, applyStep, applyOne_eq, foldl_applyStep ord]
    simp [placeAll, outcomesInTurn]

theorem map_fst_outcomesInTurn : ∀ (t : String) (ord : List (Nat × CodeChunk × String)),
    (outcomesInTurn opts t ord).map Prod.fst = ord.map Prod.fst
  | _, [] => rfl
  | t, x :: ord => by
    rw [outcomesInTurn, List.map_cons, map_fst_outcomesInTurn _ ord, List.map_cons]

theorem mem_outcomesInTurn : ∀ (pre : List (Nat × CodeChunk × String)) (t : String)
    (x : Nat × CodeChunk × String) (post : List (Nat × CodeChunk × String)),
    (x.1, fixOutcome opts (placeAll opts t (pre.map Prod.snd)) x.2) ∈
      outcomesInTurn opts t (pre ++ x :: post)
  | [], t, x, post => by simp [placeAll, outcomesInTurn]
  | p :: pre, t, x, post => by
    rw [List.cons_append, outcomesInTurn]
    exact List.mem_cons_of_mem _ (mem_outcomesInTurn pre (placeFix opts t p.2) x post)

end Turn

/-! ## The order of placing -/

def fixStart (fixes : List (CodeChunk × String)) (i : Nat) : Nat :=
  (fixes[i]?.map fun f => f.1.startLine).getD 0

/-- `order` lists the positions of the fixes from the chunk starting lowest in the text up,
positions of chunks starting on one line in increasing order. -/
structure BottomUp (fixes : List (CodeChunk × String)) (order : List Nat) : Prop where
  perm : order.Perm (List.range fixes.length)
  sorted : order.Pairwise fun i j =>
    fixStart fixes j < fixStart fixes i ∨ fixStart fixes j = fixStart fixes i ∧ i < j

/-- There is one bottom-up order of a list of fixes. -/
theorem BottomUp.eq {fixes : List (CodeChunk × String)} {o o' : List Nat} (h : BottomUp fixes o)
    (h' : BottomUp fixes o') : o = o' := by
  refine List.Perm.eq_of_pairwise (fun i j _ _ hij hji => ?_) h.sorted h'.sorted
    (h.perm.trans h'.perm.symm)
  omega

theorem pairwise_mergeSort_stable {β : Type} (key : β → Nat) {l : List (Nat × β)}
    (hl : l.Pairwise fun a b => a.1 < b.1) :
    (l.mergeSort fun a b => decide (key b.2 ≤ key a.2)).Pairwise
      fun a b => key a.2 = key b.2 → a.1 < b.1 := by
  rw [List.pairwise_iff_forall_sublist]
  intro a b hab heq
  have htied := @filter_mergeSort_of_tied _ (fun a b : Nat × β => decide (key b.2 ≤ key a.2))
    (by intro a b c; simp only [decide_eq_true_eq]; omega)
    (by intro a b; simp only [Bool.or_eq_true, decide_eq_true_eq]; omega)
    (fun x => decide (key x.2 = key a.2))
    (by intro x y hx hy; simp only [decide_eq_true_eq] at hx hy ⊢; omega) l
  -- both lie among the items of one key, which the sort keeps in their given order
  have hsub := hab.filter (fun x => decide (key x.2 = key a.2))
  rw [htied] at hsub
  simp only [List.filter_cons, heq, decide_true, if_true, List.filter_nil] at hsub
  exact List.pairwise_iff_forall_sublist.1 hl (hsub.trans List.filter_sublist)

theorem mem_fixOrder {fixes : List (CodeChunk × String)} {x : Nat × CodeChunk × String} :
    x ∈ fixOrder fixes ↔ fixes[x.1]? = some x.2 := by
  unfold fixOrder
  rw [List.mem_mergeSort, List.mem_map]
  constructor
  · rintro ⟨⟨f, i⟩, hfi, rfl⟩
    exact List.mem_zipIdx_iff_getElem?.1 hfi
  · intro h
    exact ⟨(x.2, x.1), List.mem_zipIdx_iff_getElem?.2 h, rfl⟩

theorem map_fst_fixOrder_perm (fixes : List (CodeChunk × String)) :
    ((fixOrder fixes).map Prod.fst).Perm (List.range fixes.length) := by
  unfold fixOrder
  refine ((List.mergeSort_perm _ _).map Prod.fst).trans (List.Perm.of_eq ?_)
  rw [List.map_map, List.range_eq_range', ← List.zipIdx_map_snd 0 fixes]
  exact List.map_congr_left fun x _ => by obtain ⟨f, i⟩ := x; rfl

theorem pairwise_fixOrder_stable (fixes : List (CodeChunk × String)) :
    (fixOrder fixes).Pairwise fun a b => a.2.1.startLine = b.2.1.startLine → a.1 < b.1 := by
  unfold fixOrder
  refine pairwise_mergeSort_stable (fun f : CodeChunk × String => f.1.startLine) ?_
  refine List.pairwise_map.2 ((pairwise_snd_zipIdx fixes).imp fun {x y} h => ?_)
  obtain ⟨_, _⟩ := x
  obtain ⟨_, _⟩ := y
  exact h

/-- The order the fixes are applied in is the bottom-up order. -/
theorem bottomUp_fixOrder (fixes : List (CodeChunk × String)) :
    BottomUp fixes ((fixOrder fixes).map Prod.fst) := by
  refine ⟨map_fst_fixOrder_perm fixes, List.pairwise_map.2 ?_⟩
  refine ((pairwise_fixOrder fixes).and (pairwise_fixOrder_stable fixes)).imp_of_mem ?_
  intro a b ha hb hab
  have hsa : fixStart fixes a.1 = a.2.1.startLine := by simp [fixStart, mem_fixOrder.1 ha]
  have hsb : fixStart fixes b.1 = b.2.1.startLine := by simp [fixStart, mem_fixOrder.1 hb]
  rw [hsa, hsb]
  by_cases hlt : b.2.1.startLine < a.2.1.startLine
  · exact .inl hlt
  · have heq : a.2.1.startLine = b.2.1.startLine := by have := hab.1; omega
    exact .inr ⟨heq.symm, hab.2 heq⟩

theorem map_snd_eq_filterMap {fixes : List (CodeChunk × String)} :
    ∀ {ord : List (Nat × CodeChunk × String)}, (∀ x ∈ ord, fixes[x.1]? = some x.2) →
      ord.map Prod.snd = (ord.map Prod.fst).filterMap fun j => fixes[j]?
  | [], _ => rfl
  | x :: ord, h => by
    rw [List.map_cons, List.map_cons, List.filterMap_cons, h x List.mem_cons_self,
      map_snd_eq_filterMap fun y hy => h y (List.mem_cons_of_mem _ hy)]

/-! ## The report -/

theorem getElem?_mergeSort_of_perm {β : Type} {L : List (Nat × β)} {n : Nat}
    (hperm : (L.map Prod.fst).Perm (List.range n)) {i : Nat} {s : β} (hmem : (i, s) ∈ L) :
    ((L.mergeSort fun a b => decide (a.1 ≤ b.1)).map Prod.snd)[i]? = some s := by
  have hsorted := @pairwise_mergeSort_key _ Prod.fst L
  have hperm' := List.mergeSort_perm L fun a b => decide (a.1 ≤ b.1)
  have hrange : (L.mergeSort fun a b => decide (a.1 ≤ b.1)).map Prod.fst = List.range n :=
    List.Perm.eq_of_pairwise (fun a b _ _ hab hba => Nat.le_antisymm hab hba)
      (List.pairwise_map.2 hsorted) (List.pairwise_lt_range.imp Nat.le_of_lt)
      ((hperm'.map Prod.fst).trans hperm)
  -- the outcome of position `i` stands at index `i`
  obtain ⟨k, hk⟩ := List.mem_iff_getElem?.1 (hperm'.symm.subset hmem)
  have hki : (List.range n)[k]? = some i := by rw [← hrange, List.getElem?_map, hk]; rfl
  obtain ⟨hkn, hki'⟩ := List.getElem?_eq_some_iff.1 hki
  rw [List.getElem_range] at hki'
  rw [List.getElem?_map, ← hki', hk]
  rfl

theorem mem_failures (a : Application) {n : Nat} {e : NotFound} :
    (n, e) ∈ a.failures ↔ ∃ i, n = i + 1 ∧ a.results[i]? = some (.failed e) := by
  unfold Application.failures
  simp only [List.mem_filterMap, Prod.exists, List.mem_zipIdx_iff_getElem?]
  constructor
  · rintro ⟨st, i, hi, hst⟩
    cases st with
    | applied s => simp at hst
    | failed e' =>
      simp only [Option.some.injEq, Prod.mk.injEq] at hst
      obtain ⟨rfl, rfl⟩ := hst
      exact ⟨i, rfl, hi⟩
  · rintro ⟨i, rfl, hi⟩
    exact ⟨.failed e, i, hi, rfl⟩

theorem pairwise_failures (a : Application) : a.failures.Pairwise fun x y => x.1 < y.1 := by
  unfold Application.failures
  refine List.Pairwise.filterMap _ ?_ (pairwise_snd_zipIdx a.results)
  rintro ⟨st, i⟩ ⟨st', j⟩ hij x hx y hy
  cases st <;> cases st' <;> simp only [reduceCtorEq, Option.some.injEq] at hx hy
  subst hx hy
  simp only at hij ⊢
  omega

theorem allApplied_iff (a : Application) : a.allApplied = true ↔ a.failures = [] := by
  rw [List.eq_nil_iff_forall_not_mem]
  unfold Application.allApplied
  rw [List.all_eq_true]
  constructor
  · rintro h ⟨n, e⟩ hmem
    obtain ⟨i, -, hi⟩ := (mem_failures a).1 hmem
    have := h _ (List.mem_of_getElem? hi)
    simp at this
  · intro h st hst
    cases st with
    | applied s => rfl
    | failed e =>
      obtain ⟨i, hi⟩ := List.mem_iff_getElem?.1 hst
      exact absurd ((mem_failures a).2 ⟨i, rfl, hi⟩) (h _)

/-- Applying fixes reports one outcome per fix, in the order the fixes were given: the outcome of
a fix is that of placing it in the text left by the fixes before it in the bottom-up order (a fix
that cannot be placed leaving the text as it was), and the text at the end is the one left by all
of them. The failures are the failed outcomes with their positions counted from one, in order,
and every fix was applied exactly when there is no failure. -/
theorem applyChunkFixes_bottomUp (content : String) (fixes : List (CodeChunk × String))
    (opts : ChunkOptions) (order : List Nat) (horder : BottomUp fixes order) :
    (applyChunkFixes content fixes opts).results.length = fixes.length ∧
    (∀ pre i post, order = pre ++ i :: post →
      (applyChunkFixes content fixes opts).results[i]? =
        fixes[i]?.map
          (fixOutcome opts (placeAll opts content (pre.filterMap fun j => fixes[j]?)))) ∧
    (applyChunkFixes content fixes opts).newContent =
      placeAll opts content (order.filterMap fun j => fixes[j]?) ∧
    (∀ n e, (n, e) ∈ (applyChunkFixes content fixes opts).failures ↔
      ∃ i, n = i + 1 ∧ (applyChunkFixes content fixes opts).results[i]? = some (.failed e)) ∧
    (applyChunkFixes content fixes opts).failures.Pairwise (fun x y => x.1 < y.1) ∧
    ((applyChunkFixes content fixes opts).allApplied = true ↔
      (applyChunkFixes content fixes opts).failures = []) := by
  have horder' : order = (fixOrder fixes).map Prod.fst := horder.eq (bottomUp_fixOrder fixes)
  have hnamed : ∀ x ∈ fixOrder fixes, fixes[x.1]? = some x.2 := fun x hx => mem_fixOrder.1 hx
  have hperm : ((outcomesInTurn opts content (fixOrder fixes)).map Prod.fst).Perm
      (List.range fixes.length) := by
    rw [map_fst_outcomesInTurn]
    exact map_fst_fixOrder_perm fixes
  refine ⟨?_, fun pre i post hord => ?_, ?_, fun n e => mem_failures _, pairwise_failures _,
    allApplied_iff _⟩
  · rw [applyChunkFixes_eq_foldl, foldl_applyStep]
    simpa using hperm.length_eq
  · -- the fix at `i` has the fixes of `pre` before it in the order of application
    rw [horder', List.map_eq_append_iff] at hord
    obtain ⟨preX, rest, hsplit, rfl, hrest⟩ := hord
    obtain ⟨x, postX, rfl, rfl, -⟩ := List.map_eq_cons_iff.1 hrest
    have hx : fixes[x.1]? = some x.2 := hnamed x (by rw [hsplit]; simp)
    have hpre : preX.map Prod.snd = (preX.map Prod.fst).filterMap fun j => fixes[j]? :=
      map_snd_eq_filterMap fun y hy => hnamed y (by rw [hsplit]; exact List.mem_append_left _ hy)
    have hmem := mem_outcomesInTurn opts preX content x postX
    rw [← hsplit] at hmem
    rw [applyChunkFixes_eq_foldl, foldl_applyStep, List.nil_append,
      getElem?_mergeSort_of_perm hperm hmem, hx, Option.map_some, hpre]
  · rw [applyChunkFixes_eq_foldl, foldl_applyStep, horder', map_snd_eq_filterMap hnamed]

/-- Three fixes, the last two of chunks starting on one line and the last one nowhere in the text:
the second fix is placed first, then the third in the text it left, then the first. -/
theorem applyChunkFixes_bottomUp_tied :
    BottomUp [(⟨0, 0, "a", "a", "m", "", "", 0, 0⟩, "A"),
        (⟨2, 2, "c", "c", "m", "", "", 2, 2⟩, "C"), (⟨2, 2, "z", "z", "m", "", "", 2, 2⟩, "Z")]
        [1, 2, 0] ∧
      (applyChunkFixes "a\nb\nc\n" [(⟨0, 0, "a", "a", "m", "", "", 0, 0⟩, "A"),
          (⟨2, 2, "c", "c", "m", "", "", 2, 2⟩, "C"), (⟨2, 2, "z", "z", "m", "", "", 2, 2⟩, "Z")]
          {}).results[2]? =
        some (fixOutcome {} (placeAll {} "a\nb\nc\n" [(⟨2, 2, "c", "c", "m", "", "", 2, 2⟩, "C")])
          (⟨2, 2, "z", "z", "m", "", "", 2, 2⟩, "Z")) ∧
      (applyChunkFixes "a\nb\nc\n" [(⟨0, 0, "a", "a", "m", "", "", 0, 0⟩, "A"),
          (⟨2, 2, "c", "c", "m", "", "", 2, 2⟩, "C"), (⟨2, 2, "z", "z", "m", "", "", 2, 2⟩, "Z")]
          {}).newContent =
        placeAll {} "a\nb\nc\n" [(⟨2, 2, "c", "c", "m", "", "", 2, 2⟩, "C"),
          (⟨2, 2, "z", "z", "m", "", "", 2, 2⟩, "Z"),
          (⟨0, 0, "a", "a", "m", "", "", 0, 0⟩, "A")] := by
  have h : BottomUp [(⟨0, 0, "a", "a", "m", "", "", 0, 0⟩, "A"),
      (⟨2, 2, "c", "c", "m", "", "", 2, 2⟩, "C"), (⟨2, 2, "z", "z", "m", "", "", 2, 2⟩, "Z")]
      [1, 2, 0] := ⟨by decide, by decide⟩
  obtain ⟨-, hres, hcontent, -⟩ := applyChunkFixes_bottomUp "a\nb\nc\n" _ {} [1, 2, 0] h
  exact ⟨h, (hres [1] 2 [0] rfl).trans rfl, hcontent.trans rfl⟩

end Linewise.Chunk
