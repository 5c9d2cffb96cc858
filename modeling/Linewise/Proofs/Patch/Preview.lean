import Linewise.Proofs.Patch.Coverage
/-! What a preview holds: the original files and the files the patch names, unnamed files as they
were, a new file as its new texts by line number. An existing file takes its edits from the
highest line down; on distinct lines with at most one past the end, that is the edits applied all
at once. -/
namespace Linewise

/-! ## Files of a preview -/

theorem lookup_cons_eq {a k b : String} {l : List (String × String)} :
    ((k, b) :: l).lookup a = if a = k then some b else l.lookup a := by
  rw [List.lookup_cons]
  by_cases h : a = k
  · simp [h]
  · simp [beq_eq_false_iff_ne.2 h, h]

namespace FileMap

theorem lookup_insertEntry (k v j : String) :
    ∀ l : List (String × String), (insertEntry k v l).lookup j = if j = k then some v else l.lookup j
  | [] => by simp [insertEntry]
  | (k', v') :: rest => by
    unfold insertEntry
    split
    · simp only [lookup_cons_eq]
    · split
      · next hk =>
        subst hk
        by_cases h : j = k <;> simp [lookup_cons_eq, h]
      · next hk =>
        -- the pair stays ahead; the two keys differ
        rw [lookup_cons_eq, lookup_insertEntry k v j rest, lookup_cons_eq]
        by_cases h : j = k
        · subst h
          simp [hk]
        · simp [h]

theorem get?_insert (m : FileMap) (k v j : String) :
    (m.insert k v).get? j = if j = k then some v else m.get? j :=
  lookup_insertEntry k v j m.entries

theorem get?_foldl_insert (j : String) : ∀ (kvs : List (String × String)) (m : FileMap),
    (kvs.map Prod.fst).Nodup →
      (kvs.foldl (fun m kv => m.insert kv.1 kv.2) m).get? j = (kvs.lookup j).or (m.get? j)
  | [], _, _ => by simp
  | (k, v) :: rest, m, hnd => by
    rw [List.map_cons, List.nodup_cons] at hnd
    rw [List.foldl_cons, get?_foldl_insert j rest _ hnd.2, get?_insert, lookup_cons_eq]
    by_cases h : j = k
    · -- the key is not inserted again later
      subst h
      have hnone : rest.lookup j = none := List.lookup_eq_none_iff.2 fun kv hkv => by
        have hmem : kv.1 ∈ rest.map Prod.fst := List.mem_map_of_mem hkv
        exact bne_iff_ne.2 fun hj => hnd.1 (hj ▸ hmem)
      simp [hnone]
    · simp [h]

theorem get?_foldl_insertMissing (step : FileMap → String × String → FileMap)
    (hstep : ∀ m k v, step m (k, v) = if m.contains k then m else m.insert k v) (j : String) :
    ∀ (l : List (String × String)) (m : FileMap),
      (l.foldl step m).get? j = (m.get? j).or (l.lookup j)
  | [], m => by simp
  | (k, v) :: rest, m => by
    rw [List.foldl_cons, get?_foldl_insertMissing step hstep j rest, hstep, lookup_cons_eq]
    by_cases hk : m.contains k = true
    · rw [if_pos hk]
      by_cases h : j = k
      · subst h
        obtain ⟨w, hw⟩ := Option.isSome_iff_exists.1 hk
        simp [hw]
      · simp [h]
    · rw [if_neg hk, get?_insert]
      by_cases h : j = k
      · subst h
        have hnone : m.get? j = none := by simpa [FileMap.contains] using hk
        simp [hnone]
      · simp [h]

end FileMap

theorem lookup_map_pair (g : String → String) (j : String) :
    ∀ l : List String, (l.map fun f => (f, g f)).lookup j = if j ∈ l then some (g j) else none
  | [] => by simp
  | f :: l => by
    rw [List.map_cons, lookup_cons_eq, lookup_map_pair g j l]
    by_cases h : j = f
    · subst h
      simp
    · simp [h]

theorem get?_previewPatch (O : FileMap) (p : Patch) (f : String) :
    (previewPatch O p).get? f = if f ∈ p.files then some (previewFile O p f) else O.get? f := by
  unfold previewPatch
  split
  · next hp =>
    have hfiles : p.files = [] := by simp [Patch.files, List.isEmpty_iff.1 hp, Text.sortedSet]
    simp [hfiles]
  · rw [FileMap.get?_foldl_insertMissing _ (fun _ _ _ => rfl), FileMap.ofList,
      FileMap.get?_foldl_insert]
    · rw [lookup_map_pair]
      split <;> simp [FileMap.get?, FileMap.empty]
    · have hkeys : (p.files.map fun f => (f, previewFile O p f)).map Prod.fst = p.files := by
        simp [Function.comp_def]
      rw [hkeys]
      exact (Text.pairwise_sortedSet _).imp ne_of_lt

/-! ## New files -/

section Stable

variable {α : Type} (key : α → Nat)

theorem eq_of_pairwise_of_filter_eq : ∀ {s t : List α},
    s.Pairwise (fun a b => key a ≤ key b) → t.Pairwise (fun a b => key a ≤ key b) →
    (∀ n, s.filter (fun a => key a = n) = t.filter (fun a => key a = n)) → s = t
  | [], t, _, _, h => by
    refine (List.eq_nil_iff_forall_not_mem.2 fun b hb => ?_).symm
    have := h (key b)
    rw [List.filter_nil, eq_comm, List.filter_eq_nil_iff] at this
    exact this b hb (by simp)
  | a :: s, t, hs, ht, h => by
    have hmem : ∀ {x n}, key x = n → (x ∈ a :: s ↔ x ∈ t) := fun {x n} hx => by
      have := congrArg (x ∈ ·) (h n)
      simpa [hx] using this
    obtain _ | ⟨b, t⟩ := t
    · exact absurd ((hmem rfl).1 List.mem_cons_self) List.not_mem_nil
    obtain ⟨ha, hs'⟩ := List.pairwise_cons.1 hs
    obtain ⟨hb, ht'⟩ := List.pairwise_cons.1 ht
    -- both heads have the least key
    have hab : key a = key b := by
      apply Nat.le_antisymm
      · rcases List.mem_cons.1 ((hmem rfl).2 List.mem_cons_self) with hba | hb'
        · rw [hba]
        · exact ha b hb'
      · rcases List.mem_cons.1 ((hmem rfl).1 List.mem_cons_self) with hab | ha'
        · rw [hab]
        · exact hb a ha'
    have hhead := h (key a)
    simp only [List.filter_cons, hab, decide_true, if_true, List.cons.injEq] at hhead
    obtain ⟨rfl, -⟩ := hhead
    refine congrArg (a :: ·) (eq_of_pairwise_of_filter_eq hs' ht' fun n => ?_)
    have := h n
    by_cases hn : key a = n
    · simpa [List.filter_cons, hn] using this
    · simpa [List.filter_cons, hn] using this

variable {key}

theorem filter_mergeSort_of_tied {le : α → α → Bool}
    (htrans : ∀ a b c, le a b = true → le b c = true → le a c = true)
    (htotal : ∀ a b, (le a b || le b a) = true) {p : α → Bool}
    (htied : ∀ a b, p a = true → p b = true → le a b = true) (l : List α) :
    (l.mergeSort le).filter p = l.filter p := by
  -- the tied items are sorted already, so they stay a sublist of the sorted list
  have hsorted : (l.filter p).Pairwise fun a b => le a b = true :=
    List.pairwise_of_forall_mem_list fun a ha b hb =>
      htied a b (List.mem_filter.1 ha).2 (List.mem_filter.1 hb).2
  have hsub := (List.sublist_mergeSort htrans htotal hsorted List.filter_sublist).filter p
  rw [List.filter_filter, List.filter_congr (fun a _ => Bool.and_self _)] at hsub
  have hlen : ((l.mergeSort le).filter p).length = (l.filter p).length :=
    ((List.mergeSort_perm l le).filter p).length_eq
  exact (hsub.eq_of_length hlen.symm).symm

theorem filter_mergeSort_key (l : List α) (n : Nat) :
    (l.mergeSort fun a b => key a ≤ key b).filter (fun a => key a = n) =
      l.filter (fun a => key a = n) :=
  filter_mergeSort_of_tied (by intro a b c; simp only [decide_eq_true_eq]; omega)
    (by intro a b; simp only [Bool.or_eq_true, decide_eq_true_eq]; omega)
    (by intro a b ha hb; simp only [decide_eq_true_eq] at ha hb ⊢; omega) l

theorem pairwise_mergeSort_key (l : List α) :
    (l.mergeSort fun a b => key a ≤ key b).Pairwise fun a b => key a ≤ key b :=
  (List.pairwise_mergeSort (by intro a b c; simp only [decide_eq_true_eq]; omega)
    (by intro a b; simp only [Bool.or_eq_true, decide_eq_true_eq]; omega) l).imp of_decide_eq_true

end Stable

theorem newFileText_eq_of_stable {es s : List Edit}
    (hs : s.Pairwise fun a b => a.lineNumber ≤ b.lineNumber)
    (hstable : ∀ n, s.filter (·.lineNumber = n) = es.filter (·.lineNumber = n)) :
    newFileText es = Text.joinLines ((s.map Edit.newLineContent).filter (· ≠ "")) := by
  have hsort : (es.mergeSort fun a b => a.lineNumber ≤ b.lineNumber) = s :=
    eq_of_pairwise_of_filter_eq Edit.lineNumber (pairwise_mergeSort_key es) hs
      fun n => (filter_mergeSort_key es n).trans (hstable n).symm
  rw [newFileText, hsort]
  congr 1
  exact List.filter_congr fun t _ => by
    by_cases ht : t = ""
    · simp [ht]
    · simp [ht, String.isEmpty_eq_false_iff.2 ht]

/-! ## Existing files -/

/-- What line `i`, reading `l`, becomes under edits that target distinct lines: itself when no
edit targets it, nothing when the edit there has no new text, else that new text. -/
def editedLine (es : List Edit) (i : Nat) (l : String) : List String :=
  (es.find? (·.lineNumber == i)).elim [l] fun e =>
    if e.newLineContent = "" then [] else [e.newLineContent]

/-- The lines of a file after edits that target distinct lines, applied all at once: each line as
`editedLine` makes it, then the new texts of the edits past the end. -/
def simultaneousLines (ls : List String) (es : List Edit) : List String :=
  (ls.zipIdx.flatMap fun p => editedLine es p.2 p.1) ++
    (es.filter (ls.length ≤ ·.lineNumber)).map Edit.newLineContent

def editedFrom (es : List Edit) (ls : List String) (t : Nat) : List String :=
  ((ls.drop t).zipIdx t).flatMap fun p => editedLine es p.2 p.1

def applyEdit (acc : List String) (e : Edit) : List String := (lineAction acc.length e).apply acc

theorem applyToLines_eq (ls : List String) (es : List Edit) :
    applyToLines ls es = (descendingEdits es).foldl applyEdit ls := rfl

section Simultaneous

variable {es : List Edit} {ls : List String}

theorem simultaneousLines_eq :
    simultaneousLines ls es =
      editedFrom es ls 0 ++ (es.filter (ls.length ≤ ·.lineNumber)).map Edit.newLineContent := by
  simp [simultaneousLines, editedFrom]

theorem editedFrom_length : editedFrom es ls ls.length = [] := by
  simp [editedFrom]

theorem editedFrom_eq_cons {t : Nat} (ht : t < ls.length) :
    editedFrom es ls t = editedLine es t ls[t] ++ editedFrom es ls (t + 1) := by
  rw [editedFrom, List.drop_eq_getElem_cons ht, List.zipIdx_cons, List.flatMap_cons]
  rfl

theorem editedLine_of_forall_ne {i : Nat} (l : String) (h : ∀ e ∈ es, e.lineNumber ≠ i) :
    editedLine es i l = [l] := by
  rw [editedLine, List.find?_eq_none.2 fun e he => by simpa using h e he]
  rfl

theorem editedLine_of_mem (hes : (es.map Edit.lineNumber).Nodup) {e : Edit} (he : e ∈ es)
    (l : String) :
    editedLine es e.lineNumber l = if e.newLineContent = "" then [] else [e.newLineContent] := by
  -- the edit found at its line is the edit itself, for no other edit targets that line
  have hfind : es.find? (·.lineNumber == e.lineNumber) = some e := by
    cases hf : es.find? (·.lineNumber == e.lineNumber) with
    | none => simpa using List.find?_eq_none.1 hf e he
    | some x =>
      have hx := List.mem_of_find?_eq_some hf
      have hxe : x.lineNumber = e.lineNumber := by simpa using List.find?_some hf
      rw [List.inj_on_of_nodup_map hes hx he hxe]
  rw [editedLine, hfind]
  rfl

theorem take_append_editedFrom_of_forall_ne {t : Nat} (ht : t < ls.length)
    (h : ∀ e ∈ es, e.lineNumber ≠ t) :
    ls.take (t + 1) ++ editedFrom es ls (t + 1) = ls.take t ++ editedFrom es ls t := by
  rw [editedFrom_eq_cons ht, editedLine_of_forall_ne _ h, List.take_add_one,
    List.getElem?_eq_getElem ht, Option.toList_some, List.append_assoc]

theorem applyEdit_at (hes : (es.map Edit.lineNumber).Nodup) {e : Edit} (he : e ∈ es) {t : Nat}
    (het : e.lineNumber = t) (ht : t < ls.length) (X : List String) :
    applyEdit (ls.take (t + 1) ++ editedFrom es ls (t + 1) ++ X) e =
      ls.take t ++ editedFrom es ls t ++ X := by
  have htake : ls.take (t + 1) = ls.take t ++ [ls[t]] := by
    rw [List.take_add_one, List.getElem?_eq_getElem ht]
    rfl
  have hlen : (ls.take t).length = t := List.length_take_of_le ht.le
  have hline := editedLine_of_mem hes he ls[t]
  rw [het] at hline
  rw [editedFrom_eq_cons ht, hline, htake]
  have hin : e.lineNumber < (ls.take t ++ [ls[t]] ++ editedFrom es ls (t + 1) ++ X).length := by
    simp only [List.length_append, hlen, List.length_singleton]
    omega
  unfold applyEdit lineAction
  rw [if_pos hin]
  by_cases hn : e.newLineContent = ""
  · -- the line is deleted
    have hn' : e.newLineContent.isEmpty = true := by simpa [String.isEmpty_iff] using hn
    rw [if_pos hn', if_pos hn, het]
    simp only [LineAction.apply, List.append_assoc, List.nil_append]
    rw [List.eraseIdx_append_of_length_le (by omega), hlen, Nat.sub_self]
    rfl
  · -- the line is overwritten
    have hn' : e.newLineContent.isEmpty = false := by simpa [String.isEmpty_iff] using hn
    rw [if_neg (by simp [hn']), if_neg hn, het]
    simp only [LineAction.apply, List.append_assoc]
    rw [List.set_append_right _ _ (by omega), hlen, Nat.sub_self]
    rfl

theorem eq_cons_of_le {ds : List Edit} (hsort : ds.Pairwise fun a b => b.lineNumber < a.lineNumber)
    {e : Edit} (he : e ∈ ds) (hmax : ∀ x ∈ ds, x.lineNumber ≤ e.lineNumber) :
    ∃ ds', ds = e :: ds' := by
  obtain _ | ⟨h, ds'⟩ := ds
  · exact absurd he List.not_mem_nil
  rcases List.mem_cons.1 he with rfl | he'
  · exact ⟨ds', rfl⟩
  · have := (List.pairwise_cons.1 hsort).1 e he'
    have := hmax h List.mem_cons_self
    omega

theorem mem_tail_iff_of_descending {e : Edit} {ds : List Edit} {S : Edit → Prop}
    (hsort : (e :: ds).Pairwise fun a b => b.lineNumber < a.lineNumber)
    (hds : ∀ x, x ∈ e :: ds ↔ S x) (x : Edit) :
    x ∈ ds ↔ S x ∧ x.lineNumber < e.lineNumber := by
  constructor
  · intro hx
    exact ⟨(hds x).1 (List.mem_cons_of_mem _ hx), (List.pairwise_cons.1 hsort).1 x hx⟩
  · rintro ⟨hx, hlt⟩
    rcases List.mem_cons.1 ((hds x).2 hx) with rfl | hx'
    · omega
    · exact hx'

theorem foldl_applyEdit (hes : (es.map Edit.lineNumber).Nodup) (X : List String) :
    ∀ t ≤ ls.length, ∀ ds : List Edit, ds.Pairwise (fun a b => b.lineNumber < a.lineNumber) →
      (∀ e, e ∈ ds ↔ e ∈ es ∧ e.lineNumber < t) →
      ds.foldl applyEdit (ls.take t ++ editedFrom es ls t ++ X) = editedFrom es ls 0 ++ X
  | 0, _, ds, _, hds => by
    have hnil : ds = [] := List.eq_nil_iff_forall_not_mem.2 fun e he => by
      have := ((hds e).1 he).2
      omega
    simp [hnil]
  | t + 1, ht, ds, hsort, hds => by
    by_cases hat : ∃ e ∈ es, e.lineNumber = t
    · obtain ⟨e, he, het⟩ := hat
      have heds : e ∈ ds := (hds e).2 ⟨he, by omega⟩
      obtain ⟨ds', rfl⟩ := eq_cons_of_le hsort heds fun x hx => by
        have := ((hds x).1 hx).2
        omega
      have hds' : ∀ x, x ∈ ds' ↔ x ∈ es ∧ x.lineNumber < t := fun x => by
        rw [mem_tail_iff_of_descending hsort hds, het, and_assoc]
        exact and_congr_right fun _ => ⟨And.right, fun h => ⟨by omega, h⟩⟩
      rw [List.foldl_cons, applyEdit_at hes he het (by omega),
        foldl_applyEdit hes X t (by omega) ds' (List.pairwise_cons.1 hsort).2 hds']
    · have hne : ∀ e ∈ es, e.lineNumber ≠ t := fun e he het => hat ⟨e, he, het⟩
      rw [take_append_editedFrom_of_forall_ne (by omega) hne]
      refine foldl_applyEdit hes X t (by omega) ds hsort fun x => ?_
      rw [hds x]
      constructor
      · rintro ⟨hx, hxt⟩
        exact ⟨hx, lt_of_le_of_ne (Nat.le_of_lt_succ hxt) (hne x hx)⟩
      · rintro ⟨hx, hxt⟩
        exact ⟨hx, by omega⟩

theorem pairwise_descendingEdits (hes : (es.map Edit.lineNumber).Nodup) :
    (descendingEdits es).Pairwise fun a b => b.lineNumber < a.lineNumber := by
  have hperm := List.mergeSort_perm es fun a b => decide (b.lineNumber ≤ a.lineNumber)
  have hsorted := @List.pairwise_mergeSort _ (fun a b : Edit => decide (b.lineNumber ≤ a.lineNumber))
    (by intro a b c; simp only [decide_eq_true_eq]; omega)
    (by intro a b; simp only [Bool.or_eq_true, decide_eq_true_eq]; omega) es
  have hnd := List.pairwise_map.1 ((hperm.map Edit.lineNumber).nodup_iff.2 hes)
  exact (hsorted.and hnd).imp fun ⟨hle, hne⟩ => lt_of_le_of_ne (of_decide_eq_true hle) (Ne.symm hne)

/-- Edits on distinct lines, at most one of them past the end, applied from the highest line down
in place give the lines the simultaneous reading gives. -/
theorem applyToLines_eq_simultaneousLines (hes : (es.map Edit.lineNumber).Nodup)
    (hout : (es.filter (ls.length ≤ ·.lineNumber)).length ≤ 1) :
    applyToLines ls es = simultaneousLines ls es := by
  have hperm : (descendingEdits es).Perm es := List.mergeSort_perm _ _
  have hsort := pairwise_descendingEdits hes
  have hstart : ls = ls.take ls.length ++ editedFrom es ls ls.length := by
    rw [List.take_length, editedFrom_length, List.append_nil]
  rw [applyToLines_eq, simultaneousLines_eq]
  cases hX : es.filter (ls.length ≤ ·.lineNumber) with
  | nil =>
    -- every edit lies within the file
    have hin : ∀ e ∈ es, e.lineNumber < ls.length := fun e he => by
      have := congrArg (e ∈ ·) hX
      simpa [he] using this
    conv => lhs; rw [hstart, ← List.append_nil (_ ++ _)]
    exact foldl_applyEdit hes [] ls.length le_rfl _ hsort fun e =>
      ⟨fun h => ⟨hperm.subset h, hin e (hperm.subset h)⟩, fun h => hperm.symm.subset h.1⟩
  | cons x rest =>
    -- the one edit past the end comes first and appends its text
    have hrest : rest = [] := by
      rw [hX] at hout
      simpa using hout
    subst hrest
    have hpast : ∀ e, e ∈ es ∧ ls.length ≤ e.lineNumber ↔ e = x := fun e => by
      have := congrArg (e ∈ ·) hX
      simpa using this
    have hx := (hpast x).2 rfl
    obtain ⟨ds', hds⟩ := eq_cons_of_le hsort (hperm.symm.subset hx.1) fun e he => by
      by_cases hle : ls.length ≤ e.lineNumber
      · rw [(hpast e).1 ⟨hperm.subset he, hle⟩]
      · omega
    have hsort' : (x :: ds').Pairwise fun a b => b.lineNumber < a.lineNumber := hds ▸ hsort
    have happend : applyEdit ls x = ls ++ [x.newLineContent] := by
      simp [applyEdit, lineAction, Nat.not_lt_of_le hx.2, LineAction.apply]
    rw [hds, List.foldl_cons, happend, List.map_singleton]
    conv => lhs; rw [hstart]
    refine foldl_applyEdit hes [x.newLineContent] ls.length le_rfl ds'
      (List.pairwise_cons.1 hsort').2 fun e => ?_
    rw [mem_tail_iff_of_descending hsort' (fun y => hds ▸ hperm.mem_iff)]
    refine and_congr_right fun he => ⟨fun hlt => Nat.lt_of_not_le fun hle => ?_, fun hlt => ?_⟩
    · -- the edit past the end is the head itself
      rw [(hpast e).1 ⟨he, hle⟩] at hlt
      exact Nat.lt_irrefl _ hlt
    · omega

end Simultaneous

/-- The files of a preview: exactly the original files and the files the patch names; a file the
patch does not name keeps its text; a new file is the non-empty new texts of its edits in a
stable order by line number, joined by newlines; and an existing file whose edits target distinct
lines, all but at most one within the file, is its lines with the edits applied all at once,
joined by newlines, with a final newline when the original had one and the text is not empty. -/
theorem previewPatch_simultaneous (O : FileMap) (P : Patch) :
    (∀ f, (previewPatch O P).contains f = true ↔ O.contains f = true ∨ f ∈ P.files) ∧
      (∀ f o, O.get? f = some o → f ∉ P.files → (previewPatch O P).get? f = some o) ∧
      (∀ f ∈ P.files, O.get? f = none → ∀ s : List Edit,
        s.Pairwise (fun a b => a.lineNumber ≤ b.lineNumber) →
        (∀ n, s.filter (·.lineNumber = n) = (P.editsFor f).filter (·.lineNumber = n)) →
        (previewPatch O P).get? f =
          some (Text.joinLines ((s.map Edit.newLineContent).filter (· ≠ "")))) ∧
      (∀ f ∈ P.files, ∀ o, O.get? f = some o → ((P.editsFor f).map Edit.lineNumber).Nodup →
        ((P.editsFor f).filter (Text.lineCount o ≤ ·.lineNumber)).length ≤ 1 →
        (previewPatch O P).get? f =
          some (if Text.endsWithNewline o = true ∧
              Text.joinLines (simultaneousLines (Text.lines o) (P.editsFor f)) ≠ ""
            then Text.joinLines (simultaneousLines (Text.lines o) (P.editsFor f)) ++ "\n"
            else Text.joinLines (simultaneousLines (Text.lines o) (P.editsFor f)))) := by
  refine ⟨fun f => ?_, fun f o ho hf => ?_, fun f hf hnone s hs hstable => ?_,
    fun f hf o ho hes hout => ?_⟩
  · rw [FileMap.contains, get?_previewPatch]
    by_cases hf : f ∈ P.files <;> simp [hf, FileMap.contains]
  · rw [get?_previewPatch, if_neg hf, ho]
  · rw [get?_previewPatch, if_pos hf, previewFile, hnone]
    simp only [newFileText_eq_of_stable hs hstable]
  · rw [get?_previewPatch, if_pos hf, previewFile, ho]
    simp only [applyEdits, applyToLines_eq_simultaneousLines hes hout, Bool.and_eq_true,
      Bool.not_eq_true', String.isEmpty_eq_false_iff]

/-- Deleting, overwriting and appending in a three-line file, beside a new file given out of
order: the preview reads as the edits applied all at once, and the new file in line order. -/
theorem previewPatch_simultaneous_mixed :
    (previewPatch ⟨[("f", "a\nb\nc\n")]⟩ ⟨[⟨"f", 1, "b", ""⟩, ⟨"f", 0, "a", "x"⟩, ⟨"f", 3, "", "d"⟩,
      ⟨"g", 1, "", "second"⟩, ⟨"g", 0, "", "first"⟩]⟩).get? "f" = some "x\nc\nd\n" ∧
    (previewPatch ⟨[("f", "a\nb\nc\n")]⟩ ⟨[⟨"f", 1, "b", ""⟩, ⟨"f", 0, "a", "x"⟩, ⟨"f", 3, "", "d"⟩,
      ⟨"g", 1, "", "second"⟩, ⟨"g", 0, "", "first"⟩]⟩).get? "g" = some "first\nsecond" := by
  have h := previewPatch_simultaneous ⟨[("f", "a\nb\nc\n")]⟩ ⟨[⟨"f", 1, "b", ""⟩,
    ⟨"f", 0, "a", "x"⟩, ⟨"f", 3, "", "d"⟩, ⟨"g", 1, "", "second"⟩, ⟨"g", 0, "", "first"⟩]⟩
  -- the sorted order of the new file's edits agrees with the patch on every line number
  have hstable : ∀ n, [(⟨"g", 0, "", "first"⟩ : Edit), ⟨"g", 1, "", "second"⟩].filter
      (·.lineNumber = n) = (Patch.editsFor ⟨[⟨"f", 1, "b", ""⟩, ⟨"f", 0, "a", "x"⟩,
        ⟨"f", 3, "", "d"⟩, ⟨"g", 1, "", "second"⟩, ⟨"g", 0, "", "first"⟩]⟩ "g").filter
      (·.lineNumber = n) := by
    intro n
    by_cases h0 : n = 0
    · subst h0; decide
    · by_cases h1 : n = 1
      · subst h1; decide
      · simp [Patch.editsFor, List.filter, Ne.symm h0, Ne.symm h1]
  constructor
  · rw [h.2.2.2 "f" (by decide) "a\nb\nc\n" rfl (by decide) (by decide)]
    cbv
  · rw [h.2.2.1 "g" (by decide) rfl _ (by decide) hstable]
    cbv

end Linewise
