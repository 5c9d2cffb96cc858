import Linewise.Code.Syntax
import Linewise.Proofs.Text.Search
/-! The blocks of a structural parse. Over a well-shaped tree the parse gives one block per
definition node, sorted by first and then last line, each ending at or after its start, and the
block of a definition nested in another lies within the outer one. -/
namespace Linewise.Code

namespace Point

def key (p : Point) : Lex (Nat × Nat) := toLex (p.row, p.column)

theorem key_injective : Function.Injective key := by
  rintro ⟨r, c⟩ ⟨r', c'⟩ h
  simpa [key] using h

instance : LinearOrder Point := LinearOrder.lift' key key_injective

theorem le_iff {p q : Point} : p ≤ q ↔ p.row < q.row ∨ p.row = q.row ∧ p.column ≤ q.column :=
  Prod.Lex.toLex_le_toLex

theorem lt_iff {p q : Point} : p < q ↔ p.row < q.row ∨ p.row = q.row ∧ p.column < q.column :=
  Prod.Lex.toLex_lt_toLex

theorem before_iff {p q : Point} : p.before q = true ↔ p < q := by
  rw [lt_iff, before]
  simp

end Point

namespace Node

/-! ## Nodes below a node -/

theorem mem_nodes_self (n : Node) : n ∈ n.nodes := by
  rw [nodes_eq]
  exact List.mem_cons_self

theorem nodes_subset_nodesOf {c : Node} {cs : List Node} (hc : c ∈ cs) : c.nodes ⊆ nodesOf cs := by
  induction cs with
  | nil => exact absurd hc List.not_mem_nil
  | cons d ds ih =>
    rw [nodesOf_cons]
    rcases List.mem_cons.1 hc with rfl | hc
    · exact List.subset_append_left _ _
    · exact List.Subset.trans (ih hc) (List.subset_append_right _ _)

theorem mem_nodesOf {d : Node} {cs : List Node} : d ∈ nodesOf cs ↔ ∃ c ∈ cs, d ∈ c.nodes := by
  induction cs with
  | nil => simp
  | cons c cs ih => simp [ih]

theorem nodesOf_reverse_perm (l : List Node) : (nodesOf l.reverse).Perm (nodesOf l) := by
  induction l with
  | nil => rfl
  | cons c cs ih =>
    rw [List.reverse_cons, nodesOf_append, nodesOf_cons, nodesOf_cons, nodesOf_nil, List.append_nil]
    exact (ih.append_right _).trans List.perm_append_comm

mutual
theorem nodes_subset_of_mem : ∀ (n : Node) {d : Node}, d ∈ n.nodes → d.nodes ⊆ n.nodes
  | ⟨k, s, e, m, cs⟩, d, h => by
    rw [nodes_eq] at h
    rcases List.mem_cons.1 h with rfl | h
    · exact List.Subset.refl _
    · exact List.Subset.trans (nodesOf_subset_of_mem cs h)
        (by rw [nodes_eq]; exact List.subset_cons_self _ _)
theorem nodesOf_subset_of_mem : ∀ (cs : List Node) {d : Node}, d ∈ nodesOf cs → d.nodes ⊆ nodesOf cs
  | [], _, h => absurd h List.not_mem_nil
  | c :: cs, _, h => by
    rw [nodesOf_cons] at h ⊢
    rcases List.mem_append.1 h with h | h
    · exact List.Subset.trans (nodes_subset_of_mem c h) (List.subset_append_left _ _)
    · exact List.Subset.trans (nodesOf_subset_of_mem cs h) (List.subset_append_right _ _)
end

mutual
theorem within_of_mem_nodes : ∀ (n : Node) {d : Node},
    (∀ m ∈ n.nodes, ∀ c ∈ m.children, m.start ≤ c.start ∧ c.stop ≤ m.stop) →
      d ∈ n.nodes → n.start ≤ d.start ∧ d.stop ≤ n.stop
  | ⟨k, s, e, m, cs⟩, d, hw, hd => by
    rw [nodes_eq] at hd
    rcases List.mem_cons.1 hd with rfl | hd
    · exact ⟨le_rfl, le_rfl⟩
    · -- `d` lies within a child, which lies within `n`
      obtain ⟨c, hc, hcd⟩ := within_of_mem_nodesOf cs
        (fun m' hm' => hw m' (by rw [nodes_eq]; exact List.mem_cons_of_mem _ hm')) hd
      have hnc := hw _ (mem_nodes_self _) c hc
      exact ⟨hnc.1.trans hcd.1, hcd.2.trans hnc.2⟩
theorem within_of_mem_nodesOf : ∀ (cs : List Node) {d : Node},
    (∀ m ∈ nodesOf cs, ∀ c ∈ m.children, m.start ≤ c.start ∧ c.stop ≤ m.stop) →
      d ∈ nodesOf cs → ∃ c ∈ cs, c.start ≤ d.start ∧ d.stop ≤ c.stop
  | [], _, _, hd => absurd hd List.not_mem_nil
  | c :: cs, _, hw, hd => by
    rw [nodesOf_cons, List.mem_append] at hd
    rcases hd with hd | hd
    · exact ⟨c, List.mem_cons_self,
        within_of_mem_nodes c (fun m hm => hw m (List.mem_append_left _ hm)) hd⟩
    · obtain ⟨c', hc', h⟩ := within_of_mem_nodesOf cs (fun m hm => hw m (List.mem_append_right _ hm)) hd
      exact ⟨c', List.mem_cons_of_mem _ hc', h⟩
end

/-! ## The tokens of a node's code -/

mutual
/-- The tokens the walk for the end of a node's code reads: leaves that are not comments and lie
under no comment. -/
def codeTokens : Node → List Node
  | n@⟨k, _, _, _, cs⟩ => if k == "comment" then [] else if cs.isEmpty then [n] else codeTokensOf cs
def codeTokensOf : List Node → List Node
  | [] => []
  | c :: cs => codeTokens c ++ codeTokensOf cs
end

theorem codeTokens_eq (n : Node) : codeTokens n =
    if n.kind == "comment" then [] else if n.children.isEmpty then [n] else codeTokensOf n.children := by
  cases n
  rfl

@[simp] theorem codeTokensOf_nil : codeTokensOf [] = [] := rfl

@[simp] theorem codeTokensOf_cons (c : Node) (cs : List Node) :
    codeTokensOf (c :: cs) = codeTokens c ++ codeTokensOf cs := rfl

theorem mem_codeTokensOf {t : Node} {cs : List Node} :
    t ∈ codeTokensOf cs ↔ ∃ c ∈ cs, t ∈ codeTokens c := by
  induction cs with
  | nil => simp
  | cons c cs ih => simp [ih]

@[simp] theorem codeTokensOf_append (l₁ l₂ : List Node) :
    codeTokensOf (l₁ ++ l₂) = codeTokensOf l₁ ++ codeTokensOf l₂ := by
  induction l₁ with
  | nil => rfl
  | cons c cs ih => rw [List.cons_append, codeTokensOf_cons, codeTokensOf_cons, ih, List.append_assoc]

theorem mem_codeTokensOf_reverse {t : Node} {cs : List Node} :
    t ∈ codeTokensOf cs.reverse ↔ t ∈ codeTokensOf cs := by
  simp only [mem_codeTokensOf, List.mem_reverse]

mutual
theorem mem_nodes_of_mem_codeTokens : ∀ (n : Node) {t : Node}, t ∈ codeTokens n →
    t ∈ n.nodes ∧ t.children = [] ∧ t.kind ≠ "comment"
  | ⟨k, s, e, m, cs⟩, t, h => by
    rw [codeTokens_eq] at h
    -- a comment has no tokens, a leaf is its own token, and any other node has its children's
    split at h
    · exact absurd h List.not_mem_nil
    · next hk =>
      split at h
      · next hcs =>
        rw [List.mem_singleton] at h
        subst h
        exact ⟨mem_nodes_self _, List.isEmpty_iff.1 hcs, by simpa using hk⟩
      · obtain ⟨hmem, hrest⟩ := mem_nodes_of_mem_codeTokensOf cs h
        exact ⟨by rw [nodes_eq]; exact List.mem_cons_of_mem _ hmem, hrest⟩
theorem mem_nodes_of_mem_codeTokensOf : ∀ (cs : List Node) {t : Node}, t ∈ codeTokensOf cs →
    t ∈ nodesOf cs ∧ t.children = [] ∧ t.kind ≠ "comment"
  | [], _, h => absurd h List.not_mem_nil
  | c :: cs, _, h => by
    rw [codeTokensOf_cons] at h
    rcases List.mem_append.1 h with h | h
    · obtain ⟨hmem, hrest⟩ := mem_nodes_of_mem_codeTokens c h
      exact ⟨by rw [nodesOf_cons]; exact List.mem_append_left _ hmem, hrest⟩
    · obtain ⟨hmem, hrest⟩ := mem_nodes_of_mem_codeTokensOf cs h
      exact ⟨by rw [nodesOf_cons]; exact List.mem_append_right _ hmem, hrest⟩
end

mutual
theorem mem_codeTokens_of_leaf : ∀ (n : Node) {t : Node},
    (∀ d ∈ n.nodes, d.kind = "comment" → d.children = []) →
    t ∈ n.nodes → t.children = [] → t.kind ≠ "comment" → t ∈ codeTokens n
  | ⟨k, s, e, m, cs⟩, t, hc, ht, hleaf, hkind => by
    rw [nodes_eq] at ht
    rw [codeTokens_eq]
    rcases List.mem_cons.1 ht with rfl | ht
    · have hcs : cs = [] := hleaf
      simp [hkind, hcs]
    · -- the token lies below the node, so the node has children and is no comment
      have hne : cs ≠ [] := by
        rintro rfl
        exact absurd ht List.not_mem_nil
      have hk : k ≠ "comment" := fun hk => hne (hc _ (mem_nodes_self _) hk)
      simp only [hk, beq_iff_eq, if_false, List.isEmpty_iff, hne]
      exact mem_codeTokensOf_of_leaf cs
        (fun d hd => hc d (by rw [nodes_eq]; exact List.mem_cons_of_mem _ hd)) ht hleaf hkind
theorem mem_codeTokensOf_of_leaf : ∀ (cs : List Node) {t : Node},
    (∀ d ∈ nodesOf cs, d.kind = "comment" → d.children = []) →
    t ∈ nodesOf cs → t.children = [] → t.kind ≠ "comment" → t ∈ codeTokensOf cs
  | [], _, _, ht, _, _ => absurd ht List.not_mem_nil
  | c :: cs, _, hc, ht, hleaf, hkind => by
    rw [nodesOf_cons] at hc ht
    rw [codeTokensOf_cons]
    rcases List.mem_append.1 ht with ht | ht
    · exact List.mem_append_left _ (mem_codeTokens_of_leaf c
        (fun d hd => hc d (List.mem_append_left _ hd)) ht hleaf hkind)
    · exact List.mem_append_right _ (mem_codeTokensOf_of_leaf cs
        (fun d hd => hc d (List.mem_append_right _ hd)) ht hleaf hkind)
end

end Node

/-! ## Where a node's code ends

The walk for the end of code keeps the latest end among the tokens it reads, starting from the
node's start: its answer is that start or the end of a code token, and no code token ends later. -/

theorem le_codeEndFrom (stack : List Node) (last : Point) : last ≤ Node.codeEndFrom stack last := by
  fun_induction Node.codeEndFrom stack last with
  | case1 => exact le_rfl
  | case2 => assumption
  | case3 n stack last _ _ ih =>
    simp only [dite_eq_ite] at ih
    refine le_trans ?_ ih
    split
    · next h => exact (Point.before_iff.1 h).le
    · exact le_rfl
  | case4 n stack last _ _ ih =>
    simpa only [List.unattach_reverse, List.unattach_attach] using ih

theorem stop_le_codeEndFrom (stack : List Node) (last : Point) :
    ∀ t ∈ Node.codeTokensOf stack, t.stop ≤ Node.codeEndFrom stack last := by
  fun_induction Node.codeEndFrom stack last with
  | case1 => simp
  | case2 n stack last hcomment ih =>
    intro t ht
    rw [Node.codeTokensOf_cons, Node.codeTokens_eq, if_pos hcomment, List.nil_append] at ht
    exact ih t ht
  | case3 n stack last hcomment hleaf ih =>
    simp only [dite_eq_ite] at ih
    intro t ht
    rw [Node.codeTokensOf_cons, Node.codeTokens_eq, if_neg hcomment, if_pos hleaf] at ht
    rcases List.mem_append.1 ht with ht | ht
    · -- the leaf just read: the walk goes on from an end at least its own
      rw [List.mem_singleton] at ht
      subst ht
      refine le_trans ?_ (le_codeEndFrom _ _)
      split
      · exact le_rfl
      · next h => exact not_lt.1 (fun hlt => h (Point.before_iff.2 hlt))
    · exact ih t ht
  | case4 n stack last hcomment hleaf ih =>
    simp only [List.unattach_reverse, List.unattach_attach] at ih
    intro t ht
    rw [Node.codeTokensOf_cons, Node.codeTokens_eq, if_neg hcomment, if_neg hleaf] at ht
    apply ih
    rw [Node.codeTokensOf_append, List.mem_append, Node.mem_codeTokensOf_reverse]
    exact List.mem_append.1 ht

theorem codeEndFrom_eq_or (stack : List Node) (last : Point) :
    Node.codeEndFrom stack last = last ∨
      ∃ t ∈ Node.codeTokensOf stack, Node.codeEndFrom stack last = t.stop := by
  fun_induction Node.codeEndFrom stack last with
  | case1 => exact .inl rfl
  | case2 n stack last hcomment ih =>
    rw [Node.codeTokensOf_cons, Node.codeTokens_eq, if_pos hcomment, List.nil_append]
    exact ih
  | case3 n stack last hcomment hleaf ih =>
    simp only [dite_eq_ite] at ih
    rw [Node.codeTokensOf_cons, Node.codeTokens_eq, if_neg hcomment, if_pos hleaf]
    rcases ih with h | ⟨t, ht, h⟩
    · -- the end kept is the leaf's or the one before it
      rw [h]
      split
      · exact .inr ⟨n, List.mem_append_left _ List.mem_cons_self, rfl⟩
      · exact .inl rfl
    · exact .inr ⟨t, List.mem_append_right _ ht, h⟩
  | case4 n stack last hcomment hleaf ih =>
    simp only [List.unattach_reverse, List.unattach_attach] at ih
    rw [Node.codeTokensOf_cons, Node.codeTokens_eq, if_neg hcomment, if_neg hleaf]
    rcases ih with h | ⟨t, ht, h⟩
    · exact .inl h
    · rw [Node.codeTokensOf_append, List.mem_append, Node.mem_codeTokensOf_reverse] at ht
      exact .inr ⟨t, List.mem_append.2 ht, h⟩

namespace Node

theorem start_le_codeEnd (n : Node) : n.start ≤ n.codeEnd := le_codeEndFrom [n] n.start

theorem stop_le_codeEnd {n t : Node} (ht : t ∈ codeTokens n) : t.stop ≤ n.codeEnd :=
  stop_le_codeEndFrom [n] n.start t (by simpa using ht)

theorem codeEnd_eq_or (n : Node) : n.codeEnd = n.start ∨ ∃ t ∈ codeTokens n, n.codeEnd = t.stop := by
  unfold codeEnd
  simpa using codeEndFrom_eq_or [n] n.start

/-! ## Blocks of definitions -/

theorem block?_eq_some {n : Node} {b : Block} : n.block? = some b ↔
    ∃ k, blockKind? n.kind = some k ∧ b = ⟨k, n.start.row,
      if n.codeEnd.column == 0 && n.codeEnd.row > n.start.row then n.codeEnd.row - 1
      else n.codeEnd.row⟩ := by
  unfold block?
  rw [Option.map_eq_some_iff]
  simp only [eq_comm]

end Node

theorem row_le_endRow {s e : Point} (h : s ≤ e) :
    s.row ≤ if e.column == 0 && e.row > s.row then e.row - 1 else e.row := by
  rw [Point.le_iff] at h
  split
  · next hc =>
    simp only [Bool.and_eq_true, beq_iff_eq, decide_eq_true_eq] at hc
    omega
  · omega

theorem endRow_le_endRow {si so ei eo : Point} (hsi : si < ei)
    (he : ei ≤ eo) :
    (if ei.column == 0 && ei.row > si.row then ei.row - 1 else ei.row) ≤
      if eo.column == 0 && eo.row > so.row then eo.row - 1 else eo.row := by
  rw [Point.lt_iff] at hsi
  rw [Point.le_iff] at he
  split <;> split <;> simp only [Bool.and_eq_true, beq_iff_eq, decide_eq_true_eq, not_and] at * <;>
    omega

theorem startLine_le_endLine_of_block? {n : Node} {b : Block} (h : n.block? = some b) :
    b.startLine ≤ b.endLine := by
  obtain ⟨k, -, rfl⟩ := Node.block?_eq_some.1 h
  exact row_le_endRow n.start_le_codeEnd

theorem collectBlocks_perm (stack : List Node) :
    (collectBlocks stack).Perm ((Node.nodesOf stack).filterMap Node.block?) := by
  -- pushing the children reversed reorders the nodes still to come, and nothing else
  have hpush : ∀ (n : Node) (stack : List Node),
      ((Node.nodesOf (n.children.reverse ++ stack)).filterMap Node.block?).Perm
        ((Node.nodesOf n.children ++ Node.nodesOf stack).filterMap Node.block?) := fun n stack => by
    rw [Node.nodesOf_append]
    exact ((Node.nodesOf_reverse_perm _).append_right _).filterMap _
  fun_induction collectBlocks stack with
  | case1 => rfl
  | case2 n stack b hb ih =>
    simp only [List.unattach_reverse, List.unattach_attach] at ih
    rw [Node.nodesOf_cons, Node.nodes_eq, List.cons_append, List.filterMap_cons_some hb]
    exact (ih.trans (hpush n stack)).cons b
  | case3 n stack hb ih =>
    simp only [List.unattach_reverse, List.unattach_attach] at ih
    rw [Node.nodesOf_cons, Node.nodes_eq, List.cons_append, List.filterMap_cons_none hb]
    exact ih.trans (hpush n stack)

theorem blockBefore_trans (a b c : Block) :
    blockBefore a b = true → blockBefore b c = true → blockBefore a c = true := by
  simp only [blockBefore, Bool.or_eq_true, Bool.and_eq_true, decide_eq_true_eq, beq_iff_eq]
  omega

theorem blockBefore_total (a b : Block) : (blockBefore a b || blockBefore b a) = true := by
  simp only [blockBefore, Bool.or_eq_true, Bool.and_eq_true, decide_eq_true_eq, beq_iff_eq]
  omega

/-- What a structural parser promises of every tree it gives: a child lies within its parent, a
function or class definition holds a token of positive width that is not a comment, and a comment
is a token, as it is in the grammar, so no definition hides below a comment the code-end walk
skips. -/
structure Node.WellShaped (root : Node) : Prop where
  within : ∀ m ∈ root.nodes, ∀ c ∈ m.children, m.start ≤ c.start ∧ c.stop ≤ m.stop
  comment_token : ∀ m ∈ root.nodes, m.kind = "comment" → m.children = []
  wide_token : ∀ m ∈ root.nodes, (blockKind? m.kind).isSome →
    ∃ t ∈ m.nodes, t.children = [] ∧ t.kind ≠ "comment" ∧ t.start < t.stop

/-- In a well-shaped tree the block of a definition nested in another lies within the outer
block: the inner code ends within the outer code and strictly after the inner start. -/
theorem block?_within {root o i : Node} (hw : root.WellShaped) (ho : o ∈ root.nodes)
    (hi : i ∈ Node.nodesOf o.children) {bo bi : Block} (hbo : o.block? = some bo)
    (hbi : i.block? = some bi) : bo.startLine ≤ bi.startLine ∧ bi.endLine ≤ bo.endLine := by
  have hio : i ∈ o.nodes := by
    rw [Node.nodes_eq]
    exact List.mem_cons_of_mem _ hi
  have hoSub : o.nodes ⊆ root.nodes := Node.nodes_subset_of_mem root ho
  have hiSub : i.nodes ⊆ o.nodes := Node.nodes_subset_of_mem o hio
  have hstart : o.start ≤ i.start :=
    (Node.within_of_mem_nodes o (fun m hm => hw.within m (hoSub hm)) hio).1
  obtain ⟨ki, hki, rfl⟩ := Node.block?_eq_some.1 hbi
  obtain ⟨ko, -, rfl⟩ := Node.block?_eq_some.1 hbo
  -- comments are tokens, so the leaves below `o` that are not comments are its code tokens
  have hcomments : ∀ d ∈ o.nodes, d.kind = "comment" → d.children = [] :=
    fun d hd => hw.comment_token d (hoSub hd)
  have htokens : ∀ u ∈ Node.codeTokens i, u ∈ Node.codeTokens o := fun u hu => by
    obtain ⟨hu, hleaf, hkind⟩ := Node.mem_nodes_of_mem_codeTokens i hu
    exact Node.mem_codeTokens_of_leaf o hcomments (hiSub hu) hleaf hkind
  -- the inner definition's token of positive width ends its code strictly after its start
  obtain ⟨t, ht, hleaf, hkind, hwide⟩ := hw.wide_token i (hoSub hio) (by simp [hki])
  have htI : t ∈ Node.codeTokens i :=
    Node.mem_codeTokens_of_leaf i (fun d hd => hcomments d (hiSub hd)) ht hleaf hkind
  have htStart : i.start ≤ t.start :=
    (Node.within_of_mem_nodes i (fun m hm => hw.within m (hoSub (hiSub hm))) ht).1
  have hlt : i.start < i.codeEnd :=
    lt_of_le_of_lt htStart (lt_of_lt_of_le hwide (Node.stop_le_codeEnd htI))
  have hle : i.codeEnd ≤ o.codeEnd := by
    rcases i.codeEnd_eq_or with h | ⟨u, hu, h⟩
    · exact absurd h (ne_of_gt hlt)
    · rw [h]
      exact Node.stop_le_codeEnd (htokens u hu)
  have hrow : o.start.row ≤ i.start.row := by
    rcases Point.le_iff.1 hstart with h | h <;> omega
  exact ⟨hrow, endRow_le_endRow hlt hle⟩

/-- The blocks of a structural parse. Where the parser's trees are well shaped (children within
their parents, comments as tokens, a token of positive width in each definition), a parse that
gives blocks gives one block per function or class definition node of the tree, sorted by first
and then last line, each ending at or after its first line, and the block of a definition nested
in another lies within the outer block. -/
theorem structureBlocks_blocksOf (parse : String → Option Node)
    (hparse : ∀ text root, parse text = some root → root.WellShaped) {text : String}
    {bs : List Block} (h : structureBlocks parse text = some bs) :
    ∃ root, parse text = some root ∧ root.hasError = false ∧
      bs.Perm (root.nodes.filterMap Node.block?) ∧
      bs.Pairwise (fun a b => blockBefore a b = true) ∧
      (∀ b ∈ bs, b.startLine ≤ b.endLine) ∧
      ∀ o ∈ root.nodes, ∀ i ∈ Node.nodesOf o.children, ∀ bo bi, o.block? = some bo →
        i.block? = some bi → bo.startLine ≤ bi.startLine ∧ bi.endLine ≤ bo.endLine := by
  unfold structureBlocks at h
  split at h
  · next root hroot =>
    split at h
    · exact absurd h (by simp)
    · next herr =>
      cases h
      have hperm : ((collectBlocks [root]).mergeSort blockBefore).Perm
          (root.nodes.filterMap Node.block?) := by
        refine (List.mergeSort_perm _ _).trans ?_
        simpa using collectBlocks_perm [root]
      refine ⟨root, hroot, by simpa using herr, hperm,
        List.pairwise_mergeSort blockBefore_trans blockBefore_total _, fun b hb => ?_,
        fun o ho i hi bo bi hbo hbi => block?_within (hparse text root hroot) ho hi hbo hbi⟩
      obtain ⟨n, -, hn⟩ := List.mem_filterMap.1 (hperm.subset hb)
      exact startLine_le_endLine_of_block? hn
  · exact absurd h (by simp)

/-- The tree a structural parser gives for a class whose one-line method is followed by a
comment. -/
def methodTree : Node :=
  ⟨"module", ⟨0, 0⟩, ⟨3, 0⟩, false,
    [⟨"class_definition", ⟨0, 0⟩, ⟨1, 16⟩, false,
      [⟨"class", ⟨0, 0⟩, ⟨0, 5⟩, false, []⟩,
       ⟨"function_definition", ⟨1, 4⟩, ⟨1, 16⟩, false,
        [⟨"def", ⟨1, 4⟩, ⟨1, 7⟩, false, []⟩, ⟨"pass", ⟨1, 12⟩, ⟨1, 16⟩, false, []⟩]⟩]⟩,
     ⟨"comment", ⟨2, 0⟩, ⟨2, 5⟩, false, []⟩]⟩

/-- A class with a one-line method and a trailing comment: the method's block lies within the
class's, and neither takes in the comment. -/
theorem structureBlocks_blocksOf_method :
    (∀ (text : String) root, (fun _ => some methodTree) text = some root → root.WellShaped) ∧
    structureBlocks (fun _ => some methodTree) "class A:\n    def f(self): pass\n# end\n" =
      some [⟨.classDef, 0, 1⟩, ⟨.function, 1, 1⟩] ∧
    ∃ root, (fun (_ : String) => some methodTree) "class A:\n    def f(self): pass\n# end\n" =
        some root ∧ root.hasError = false ∧
      [(⟨.classDef, 0, 1⟩ : Block), ⟨.function, 1, 1⟩].Perm (root.nodes.filterMap Node.block?) ∧
      [(⟨.classDef, 0, 1⟩ : Block), ⟨.function, 1, 1⟩].Pairwise
        (fun a b => blockBefore a b = true) ∧
      (∀ b ∈ [(⟨.classDef, 0, 1⟩ : Block), ⟨.function, 1, 1⟩], b.startLine ≤ b.endLine) ∧
      ∀ o ∈ root.nodes, ∀ i ∈ Node.nodesOf o.children, ∀ bo bi, o.block? = some bo →
        i.block? = some bi → bo.startLine ≤ bi.startLine ∧ bi.endLine ≤ bo.endLine := by
  have hshape : methodTree.WellShaped := by
    constructor <;> decide
  have hparse : ∀ (text : String) root, (fun _ => some methodTree) text = some root →
      root.WellShaped := by
    rintro _ root ⟨⟩
    exact hshape
  have hblocks : structureBlocks (fun _ => some methodTree)
      "class A:\n    def f(self): pass\n# end\n" =
        some [⟨.classDef, 0, 1⟩, ⟨.function, 1, 1⟩] := by
    simp [structureBlocks, methodTree, collectBlocks, Node.block?, Node.codeEnd, Node.codeEndFrom,
      Point.before, Node.blockKind?, Node.hasError, Node.nodes_eq]
    cbv
  exact ⟨hparse, hblocks, structureBlocks_blocksOf _ hparse hblocks⟩

end Linewise.Code
