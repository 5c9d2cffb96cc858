import Linewise.Fix.Run
import Linewise.Proofs.Patch.Preview
/-! What a fixer run hands on. The fixer is asked about the chunks of the named files in one
stream of replies, each file taking one reply per chunk; the replies that pass the check are
applied, and a file is handed on when its text changes and passes the check. -/
/-! ### The files kept -/

namespace Linewise.FileMap

theorem mem_names_insertEntry (k v j : String) :
    ∀ l : List (String × String), j ∈ (insertEntry k v l).map Prod.fst ↔ j = k ∨ j ∈ l.map Prod.fst
  | [] => by simp [insertEntry]
  | (k', v') :: rest => by
    unfold insertEntry
    split
    · simp
    · split
      · next hk =>
        subst hk
        simp
      · simp only [List.map_cons, List.mem_cons, mem_names_insertEntry k v j rest]
        tauto

theorem mem_names_insert (m : FileMap) (k v j : String) :
    j ∈ (m.insert k v).names ↔ j = k ∨ j ∈ m.names :=
  mem_names_insertEntry k v j m.entries

theorem get?_foldl_insert_last (j : String) : ∀ (kvs : List (String × String)) (m : FileMap),
    (kvs.foldl (fun m kv => m.insert kv.1 kv.2) m).get? j = (kvs.reverse.lookup j).or (m.get? j)
  | [], _ => by simp
  | (k, v) :: rest, m => by
    rw [List.foldl_cons, get?_foldl_insert_last j rest, get?_insert, List.reverse_cons,
      List.lookup_append, Option.or_assoc, lookup_cons_eq]
    by_cases h : j = k <;> simp [h]

theorem mem_names_foldl_insert (j : String) : ∀ (kvs : List (String × String)) (m : FileMap),
    j ∈ (kvs.foldl (fun m kv => m.insert kv.1 kv.2) m).names ↔ j ∈ m.names ∨ j ∈ kvs.map Prod.fst
  | [], _ => by simp
  | (k, v) :: rest, m => by
    rw [List.foldl_cons, mem_names_foldl_insert j rest, mem_names_insert, List.map_cons,
      List.mem_cons]
    tauto

end Linewise.FileMap

namespace Linewise.Fix

open Chunk

variable {σ : Type} (src : BlockSource)

/-- The replies of a fixer asked about chunks in turn, each with its imports, and its state
after them. -/
def askAll (fixer : Fixer σ) : σ → List (CodeChunk × List String) → List (Option String) × σ
  | s, [] => ([], s)
  | s, q :: qs =>
    let (r, s) := fixer s q.1 q.2
    let (rs, s) := askAll fixer s qs
    (r :: rs, s)

def chunksOf (keywords : List String) (opts : ChunkOptions) (v : String × String) :
    List CodeChunk :=
  extractChunksWith src v.2 keywords v.1 opts

def questions (keywords : List String) (opts : ChunkOptions) (v : String × String) :
    List (CodeChunk × List String) :=
  (chunksOf src keywords opts v).map fun c => (c, extractImports v.2)

/-- The fixes taken from chunks and their replies, in order: the replies that are present and
pass the check against the chunk's target text. -/
def acceptedFixes (path : String) : List CodeChunk → List (Option String) → List (CodeChunk × String)
  | c :: cs, some f :: rs =>
    if validateFix src c.coreText f path = .ok () then (c, f) :: acceptedFixes path cs rs
    else acceptedFixes path cs rs
  | _ :: cs, none :: rs => acceptedFixes path cs rs
  | _, _ => []

/-- What a named text hands on, given the replies to its chunks: its accepted fixes applied,
when that changes the text and the new text passes the check. -/
def handOn (keywords : List String) (opts : ChunkOptions) (v : String × String)
    (rs : List (Option String)) : Option (String × String) :=
  let t :=
    (applyChunkFixes v.2 (acceptedFixes src v.1 (chunksOf src keywords opts v) rs) opts).newContent
  if t ≠ v.2 ∧ validateFix src v.2 t v.1 = .ok () then some (v.1, t) else none

/-- What named texts hand on, given the replies in the order they were asked for: each text
takes one reply per chunk. -/
def handOuts (keywords : List String) (opts : ChunkOptions) :
    List (String × String) → List (Option String) → List (String × String)
  | [], _ => []
  | v :: vs, rs =>
    (handOn src keywords opts v (rs.take (chunksOf src keywords opts v).length)).toList ++
      handOuts keywords opts vs (rs.drop (chunksOf src keywords opts v).length)

def visits (files : FileMap) (names : List String) : List (String × String) :=
  names.filterMap fun n => (files.get? n).map fun c => (n, c)

/-- How a run over named files ends. Without files, names or keywords it is idle. Otherwise the
fixer is asked about the chunks of the files visited and answers them in one stream; what is
handed on is what each file makes of its share of the replies. Every file handed on is named and
present, its new text differs from the old one and passes the check against it, and the files
kept are those handed on, each with the text handed on last. -/
structure RunsAs (fixer : Fixer σ) (init : σ) (files : FileMap) (names keywords : List String)
    (opts : ChunkOptions) (o : Outcome σ) : Prop where
  idle : (files.isEmpty = true ∨ names = [] ∨ keywords = []) → o = ⟨FileMap.empty, [], init⟩
  answered : ¬(files.isEmpty = true ∨ names = [] ∨ keywords = []) →
    let asked := askAll fixer init ((visits files names).flatMap (questions src keywords opts))
    o.state = asked.2 ∧ o.delivered = handOuts src keywords opts (visits files names) asked.1
  handed : ∀ p ∈ o.delivered, p.1 ∈ names ∧
    ∃ c, files.get? p.1 = some c ∧ p.2 ≠ c ∧ validateFix src c p.2 p.1 = .ok ()
  keys : ∀ k, k ∈ o.fixed.names ↔ k ∈ o.delivered.map Prod.fst
  latest : ∀ k, o.fixed.get? k = o.delivered.reverse.lookup k

/-! ### The fixer's replies -/

theorem length_askAll (fixer : Fixer σ) :
    ∀ (s : σ) (qs : List (CodeChunk × List String)), (askAll fixer s qs).1.length = qs.length
  | _, [] => rfl
  | s, q :: qs => by simp [askAll, length_askAll fixer _ qs]

theorem askAll_append (fixer : Fixer σ) (xs ys : List (CodeChunk × List String)) :
    ∀ s : σ, askAll fixer s (xs ++ ys) =
      ((askAll fixer s xs).1 ++ (askAll fixer (askAll fixer s xs).2 ys).1,
        (askAll fixer (askAll fixer s xs).2 ys).2) := by
  induction xs with
  | nil => intro s; rfl
  | cons q xs ih =>
    intro s
    simp only [List.cons_append, askAll, ih, List.cons_append]

variable {src} in
theorem accepts_iff {original fixed path : String} :
    accepts src original fixed path = true ↔ validateFix src original fixed path = .ok () := by
  unfold accepts
  split <;> simp_all

theorem offerChunks_eq (fixer : Fixer σ) (imports : List String) (path : String) :
    ∀ (s : σ) (cs : List CodeChunk), offerChunks src fixer imports path s cs =
      (acceptedFixes src path cs (askAll fixer s (cs.map fun c => (c, imports))).1,
        (askAll fixer s (cs.map fun c => (c, imports))).2)
  | _, [] => rfl
  | s, c :: cs => by
    have ih := offerChunks_eq fixer imports path (fixer s c imports).2 cs
    simp only [offerChunks, List.map_cons, askAll, ih]
    rcases fixer s c imports with ⟨_ | f, s'⟩
    · rfl
    · by_cases h : validateFix src c.coreText f path = .ok ()
      · simp [acceptedFixes, h, accepts_iff.2 h]
      · have h' : accepts src c.coreText f path = false := by
          rw [← Bool.not_eq_true, accepts_iff]
          exact h
        simp [acceptedFixes, h, h']

theorem newContent_applyChunkFixes_nil (content : String) (opts : ChunkOptions) :
    (applyChunkFixes content [] opts).newContent = content := by
  simp [applyChunkFixes, fixOrder]

theorem fileOutcome_eq (content name : String) (acc : List (CodeChunk × String))
    (opts : ChunkOptions) (s : σ) :
    (if acc.isEmpty = true then (none, s)
      else if ((applyChunkFixes content acc opts).newContent != content &&
          accepts src content (applyChunkFixes content acc opts).newContent name) = true then
        (some (applyChunkFixes content acc opts).newContent, s)
      else (none, s)) =
    ((if (applyChunkFixes content acc opts).newContent ≠ content ∧
        validateFix src content (applyChunkFixes content acc opts).newContent name = .ok () then
      some (name, (applyChunkFixes content acc opts).newContent) else none).map Prod.snd, s) := by
  by_cases hacc : acc = []
  · subst hacc
    simp [newContent_applyChunkFixes_nil]
  · have hne : acc.isEmpty = false := by simpa using hacc
    simp only [hne, Bool.false_eq_true, if_false, Bool.and_eq_true, bne_iff_ne, ne_eq,
      accepts_iff]
    split_ifs <;> rfl

theorem fixFile_eq (fixer : Fixer σ) (keywords : List String) (opts : ChunkOptions)
    (name content : String) (s : σ) :
    fixFile src fixer keywords opts name content s =
      ((handOn src keywords opts (name, content)
          (askAll fixer s (questions src keywords opts (name, content))).1).map Prod.snd,
        (askAll fixer s (questions src keywords opts (name, content))).2) := by
  unfold fixFile
  simp only [offerChunks_eq, questions, chunksOf, handOn]
  exact fileOutcome_eq _ _ _ _ _ _

variable {src} in
theorem handOn_eq_some {keywords : List String} {opts : ChunkOptions} {v : String × String}
    {rs : List (Option String)} {p : String × String} :
    handOn src keywords opts v rs = some p ↔
      p = (v.1, (applyChunkFixes v.2
          (acceptedFixes src v.1 (chunksOf src keywords opts v) rs) opts).newContent) ∧
        p.2 ≠ v.2 ∧ validateFix src v.2 p.2 v.1 = .ok () := by
  unfold handOn
  dsimp only
  split_ifs with h
  · constructor
    · rintro ⟨⟩
      exact ⟨rfl, h⟩
    · rintro ⟨rfl, -⟩
      rfl
  · simp only [false_iff, not_and]
    rintro rfl
    exact fun h₁ h₂ => h ⟨h₁, h₂⟩

/-! ### The run -/

section Run

variable (fixer : Fixer σ) (files : FileMap) (keywords : List String) (opts : ChunkOptions)

theorem foldl_fixStep : ∀ (names : List String) (o : Outcome σ),
    let asked := askAll fixer o.state ((visits files names).flatMap (questions src keywords opts))
    let ds := handOuts src keywords opts (visits files names) asked.1
    names.foldl (fixStep src fixer files keywords opts) o =
      ⟨ds.foldl (fun m kv => m.insert kv.1 kv.2) o.fixed, o.delivered ++ ds, asked.2⟩
  | [], o => by simp [visits, handOuts, askAll]
  | n :: ns, o => by
    intro asked ds
    rw [List.foldl_cons]
    cases hf : files.get? n with
    | none =>
      -- a name without a file is passed over
      have hv : visits files (n :: ns) = visits files ns := by simp [visits, hf]
      have hstep : fixStep src fixer files keywords opts o n = o := by simp [fixStep, hf]
      rw [hstep, foldl_fixStep ns o]
      simp only [asked, ds, hv]
    | some c =>
      have hv : visits files (n :: ns) = (n, c) :: visits files ns := by simp [visits, hf]
      rcases hask : askAll fixer o.state (questions src keywords opts (n, c)) with ⟨r₁, s₁⟩
      have hlen : r₁.length = (chunksOf src keywords opts (n, c)).length := by
        have := length_askAll fixer o.state (questions src keywords opts (n, c))
        rw [hask] at this
        simpa [questions] using this
      have hasked : asked = (r₁ ++ (askAll fixer s₁
          ((visits files ns).flatMap (questions src keywords opts))).1,
          (askAll fixer s₁ ((visits files ns).flatMap (questions src keywords opts))).2) := by
        simp only [asked, hv, List.flatMap_cons, askAll_append, hask]
      have hds : ds = (handOn src keywords opts (n, c) r₁).toList ++
          handOuts src keywords opts (visits files ns)
            (askAll fixer s₁ ((visits files ns).flatMap (questions src keywords opts))).1 := by
        simp only [ds, hasked, hv, handOuts, ← hlen, List.take_left, List.drop_left]
      rw [hasked, hds]
      have hfix := fixFile_eq src fixer keywords opts n c o.state
      rw [hask] at hfix
      -- the file hands on something or not; either way the rest of the run starts from `s₁`
      cases hh : handOn src keywords opts (n, c) r₁ with
      | none =>
        have hstep : fixStep src fixer files keywords opts o n = { o with state := s₁ } := by
          simp [fixStep, hf, hfix, hh]
        rw [hstep, foldl_fixStep ns]
        simp
      | some p =>
        rcases p with ⟨m, t⟩
        obtain rfl : m = n := congrArg Prod.fst (handOn_eq_some.1 hh).1
        have hstep : fixStep src fixer files keywords opts o m =
            ⟨o.fixed.insert m t, o.delivered ++ [(m, t)], s₁⟩ := by
          simp [fixStep, hf, hfix, hh]
        rw [hstep, foldl_fixStep ns]
        simp

theorem mem_visits {names : List String} {v : String × String} :
    v ∈ visits files names ↔ v.1 ∈ names ∧ files.get? v.1 = some v.2 := by
  unfold visits
  constructor
  · intro h
    obtain ⟨n, hn, hv⟩ := List.mem_filterMap.1 h
    obtain ⟨c, hc, rfl⟩ := Option.map_eq_some_iff.1 hv
    exact ⟨hn, hc⟩
  · rintro ⟨hn, hc⟩
    exact List.mem_filterMap.2 ⟨v.1, hn, by simp [hc]⟩

theorem mem_handOuts {p : String × String} : ∀ {vs : List (String × String)}
    {rs : List (Option String)}, p ∈ handOuts src keywords opts vs rs →
      ∃ v ∈ vs, ∃ rs', handOn src keywords opts v rs' = some p
  | [], _, h => absurd h List.not_mem_nil
  | v :: vs, rs, h => by
    rcases List.mem_append.1 h with h | h
    · exact ⟨v, List.mem_cons_self, _, Option.mem_toList.1 h⟩
    · obtain ⟨v', hv', rs', h'⟩ := mem_handOuts h
      exact ⟨v', List.mem_cons_of_mem _ hv', rs', h'⟩

end Run

/-- A run of a fixer over named files, whatever source finds their blocks: without files, names
or keywords it asks nothing and hands on nothing; otherwise the fixer answers the chunks of the
files visited in one stream, each file hands on what its accepted fixes make of it when the text
changed and passes the check, and the map kept holds exactly the files handed on, each with the
text handed on last. -/
theorem fixFiles_runsAs (fixer : Fixer σ) (init : σ) (files : FileMap) (names keywords : List String)
    (opts : ChunkOptions) : RunsAs src fixer init files names keywords opts
      (fixFiles src fixer init files names keywords opts) := by
  unfold fixFiles
  split
  · next hidle =>
    have hidle' : files.isEmpty = true ∨ names = [] ∨ keywords = [] := by
      simpa [or_assoc] using hidle
    refine ⟨fun _ => rfl, fun h => absurd hidle' h, by simp, fun k => ?_, fun k => ?_⟩
    · simp [FileMap.names, FileMap.empty]
    · simp [FileMap.get?, FileMap.empty]
  · next hbusy =>
    have hbusy' : ¬(files.isEmpty = true ∨ names = [] ∨ keywords = []) := by
      simpa [and_assoc] using hbusy
    rw [foldl_fixStep]
    refine ⟨fun h => absurd h hbusy', fun _ => by simp, fun p hp => ?_, fun k => ?_, fun k => ?_⟩
    · -- every file handed on is one visited, and hands on a changed text that passes the check
      rw [List.nil_append] at hp
      obtain ⟨v, hv, rs, h⟩ := mem_handOuts src keywords opts hp
      obtain ⟨rfl, hne, hok⟩ := handOn_eq_some.1 h
      obtain ⟨hn, hc⟩ := (mem_visits files).1 hv
      exact ⟨hn, v.2, hc, hne, hok⟩
    · rw [FileMap.mem_names_foldl_insert]
      simp [FileMap.names, FileMap.empty]
    · rw [FileMap.get?_foldl_insert_last]
      simp [FileMap.get?, FileMap.empty]

end Linewise.Fix
