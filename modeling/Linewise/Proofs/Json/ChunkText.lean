import Linewise.Chunk.Codec
import Linewise.Json.Print
import Linewise.Proofs.Text.Search
/-! Reading printed chunks back. `Reads d r input a rest` says that reading with `r` before
`input` gives `a` and stops before `rest`; built from the readers of strings, counts, objects and
arrays, it shows that a list of chunks printed as pretty JSON reads back as the same list when
their line numbers fit a machine word (`readAll_pretty`). -/
namespace Linewise.Json

/-- Reading with `r` from before `input`, with room for `d` more levels of nesting, gives `a` and
stops before `rest`, at the nesting it started at. -/
def Reads {α : Type} (d : Nat) (r : Reading α) (input : List Char) (a : α) (rest : List Char) :
    Prop :=
  ∀ c : Cursor, c.rest = input → d ≤ c.depth →
    ∃ c' : Cursor, r.run c = .ok (a, c') ∧ c'.rest = rest ∧ c'.depth = c.depth

namespace Reads

variable {α β : Type} {d : Nat} {input mid rest : List Char}

theorem bind {x : Reading α} {f : α → Reading β} {a : α} {b : β}
    (hx : Reads d x input a mid) (hf : Reads d (f a) mid b rest) :
    Reads d (x >>= f) input b rest := by
  intro c hc hd
  obtain ⟨c₁, h₁, hr₁, hd₁⟩ := hx c hc hd
  obtain ⟨c₂, h₂, hr₂, hd₂⟩ := hf c₁ hr₁ (hd₁ ▸ hd)
  refine ⟨c₂, ?_, hr₂, hd₂.trans hd₁⟩
  rw [StateT.run_bind, h₁]
  exact h₂

theorem map {x : Reading α} {g : α → β} {a : α} (hx : Reads d x input a rest) :
    Reads d (g <$> x) input (g a) rest := by
  intro c hc hd
  obtain ⟨c', h, hr, hdd⟩ := hx c hc hd
  refine ⟨c', ?_, hr, hdd⟩
  rw [StateT.run_map, h]
  rfl

theorem map_run {x : Reading α} {a : α} (h : Reads d x input a rest) {c : Cursor}
    (hc : c.rest = input) (hd : d ≤ c.depth) : (x.run c).map Prod.fst = .ok a := by
  obtain ⟨c', h', -, -⟩ := h c hc hd
  rw [h']
  rfl

theorem pure (a : α) : Reads d (Pure.pure a : Reading α) input a input := by
  intro c hc _
  exact ⟨c, rfl, hc, rfl⟩

end Reads

namespace Cursor

theorem bump_cons {c : Cursor} {ch : Char} {r : List Char} (hc : c.rest = ch :: r) :
    c.bump.rest = r ∧ c.bump.depth = c.depth := by
  obtain ⟨rest, line, column, depth⟩ := c
  dsimp only at hc
  subst hc
  unfold bump
  dsimp only
  split_ifs <;> exact ⟨rfl, rfl⟩

theorem skipWhile_append {p : Char → Bool} (post : List Char)
    (hpost : ∀ ch ∈ post.head?, p ch = false) :
    ∀ (pre : List Char) (n : Nat) (c : Cursor), (∀ ch ∈ pre, p ch = true) → pre.length ≤ n →
      c.rest = pre ++ post → (skipWhile p n c).rest = post ∧ (skipWhile p n c).depth = c.depth
  | [], 0, c, _, _, hc => ⟨hc, rfl⟩
  | [], n + 1, c, _, _, hc => by
    rw [List.nil_append] at hc
    unfold skipWhile peek
    cases post with
    | nil => simp [hc]
    | cons ch r => simp [hc, hpost ch rfl]
  | ch :: pre, n + 1, c, hpre, hn, hc => by
    have hch : p ch = true := hpre ch List.mem_cons_self
    obtain ⟨hb, hbd⟩ := bump_cons (c := c) (r := pre ++ post) (by rw [hc, List.cons_append])
    obtain ⟨h, hd⟩ := skipWhile_append post hpost pre n c.bump
      (fun x hx => hpre x (List.mem_cons_of_mem _ hx)) (by simp at hn; omega) hb
    unfold skipWhile peek
    simp only [hc, List.cons_append, List.head?_cons, hch, if_true]
    exact ⟨h, hd.trans hbd⟩

theorem skipWhile_exact {p : Char → Bool} (post : List Char) :
    ∀ (pre : List Char) (c : Cursor), (∀ ch ∈ pre, p ch = true) → c.rest = pre ++ post →
      (skipWhile p pre.length c).rest = post ∧ (skipWhile p pre.length c).depth = c.depth
  | [], c, _, hc => ⟨hc, rfl⟩
  | ch :: pre, c, hpre, hc => by
    have hch : p ch = true := hpre ch List.mem_cons_self
    obtain ⟨hb, hbd⟩ := bump_cons (c := c) (r := pre ++ post) (by rw [hc, List.cons_append])
    obtain ⟨h, hd⟩ := skipWhile_exact post pre c.bump
      (fun x hx => hpre x (List.mem_cons_of_mem _ hx)) hb
    unfold skipWhile peek
    simp only [hc, List.cons_append, List.head?_cons, hch, if_true, List.length_cons]
    exact ⟨h, hd.trans hbd⟩

end Cursor

section Scalars

variable {d : Nat}

theorem peekToken_at {pre r : List Char} {ch : Char} (hpre : ∀ x ∈ pre, Cursor.isBlank x = true)
    (hch : Cursor.isBlank ch = false) : Reads d peekToken (pre ++ ch :: r) (some ch) (ch :: r) := by
  intro c hc _
  obtain ⟨h, hd⟩ := Cursor.skipWhile_append (ch :: r) (by simpa using hch) pre c.rest.length c hpre
    (by rw [hc]; simp) hc
  refine ⟨c.skipBlanks, ?_, h, hd⟩
  show Except.ok (c.skipBlanks.peek, c.skipBlanks) = _
  rw [Cursor.peek, Cursor.skipBlanks, h]
  rfl

theorem peekToken_head {ch : Char} {r : List Char} (hch : Cursor.isBlank ch = false) :
    Reads d peekToken (ch :: r) (some ch) (ch :: r) :=
  @peekToken_at d [] r ch (by simp) hch

theorem peekToken_end (pre : List Char) (hpre : ∀ x ∈ pre, Cursor.isBlank x = true) :
    Reads d peekToken pre none [] := by
  intro c hc _
  obtain ⟨h, hd⟩ := Cursor.skipWhile_append [] (by simp) pre c.rest.length c hpre
    (by rw [hc]) (by rw [hc, List.append_nil])
  refine ⟨c.skipBlanks, ?_, h, hd⟩
  show Except.ok (c.skipBlanks.peek, c.skipBlanks) = _
  rw [Cursor.peek, Cursor.skipBlanks, h]
  rfl

theorem nextChar_cons {ch : Char} {r : List Char} : Reads d nextChar (ch :: r) (some ch) r := by
  intro c hc _
  obtain ⟨h, hd⟩ := Cursor.bump_cons hc
  refine ⟨c.bump, ?_, h, hd⟩
  show Except.ok (c.peek, c.bump) = _
  rw [Cursor.peek, hc]
  rfl

theorem bump_cons {ch : Char} {r : List Char} : Reads d bump (ch :: r) () r := by
  intro c hc _
  obtain ⟨h, hd⟩ := Cursor.bump_cons hc
  exact ⟨c.bump, rfl, h, hd⟩

theorem peekChar_nil : Reads d peekChar [] none [] := by
  intro c hc _
  refine ⟨c, ?_, hc, rfl⟩
  show Except.ok (c.peek, c) = _
  rw [Cursor.peek, hc]
  rfl

theorem Reads.get_bind {α : Type} {f : Cursor → Reading α} {input rest : List Char} {a : α}
    (h : ∀ c : Cursor, c.rest = input → Reads d (f c) input a rest) :
    Reads d (get >>= f) input a rest := by
  intro c hc hd
  exact h c hc c hc hd

theorem peekChar_cons {ch : Char} {r : List Char} : Reads d peekChar (ch :: r) (some ch) (ch :: r) := by
  intro c hc _
  refine ⟨c, ?_, hc, rfl⟩
  show Except.ok (c.peek, c) = _
  rw [Cursor.peek, hc]
  rfl

end Scalars

/-! ### Strings -/

section Strings

variable {d : Nat}

theorem hexValue_hexDigit : ∀ n : Nat, n < 16 → hexValue (hexDigit n) = some n
  | 0, _ | 1, _ | 2, _ | 3, _ | 4, _ | 5, _ | 6, _ | 7, _ | 8, _ | 9, _ | 10, _ | 11, _ | 12, _
  | 13, _ | 14, _ | 15, _ => by decide
  | _ + 16, h => absurd h (by omega)

theorem utf8Size_hexDigit : ∀ n : Nat, n < 16 → (hexDigit n).utf8Size = 1
  | 0, _ | 1, _ | 2, _ | 3, _ | 4, _ | 5, _ | 6, _ | 7, _ | 8, _ | 9, _ | 10, _ | 11, _ | 12, _
  | 13, _ | 14, _ | 15, _ => by decide
  | _ + 16, h => absurd h (by omega)

theorem readHex4_control {a b : Nat} (ha : a < 16) (hb : b < 16) {r : List Char} :
    Reads d readHex4 ('0' :: '0' :: hexDigit a :: hexDigit b :: r) (a * 16 + b) r := by
  intro c hc _
  have hfour : c.rest.take 4 = ['0', '0', hexDigit a, hexDigit b] := by simp [hc]
  obtain ⟨h, hd⟩ := Cursor.skipWhile_exact r (p := fun _ => true)
    ['0', '0', hexDigit a, hexDigit b] c (by simp) hc
  refine ⟨Cursor.skipWhile (fun _ => true) 4 c, ?_, h, hd⟩
  have hzero : hexValue '0' = some 0 := rfl
  have hsize : Char.utf8Size '0' = 1 := rfl
  simp only [readHex4, StateT.run_bind, StateT.run_get, pure_bind, hfour, List.map_cons,
    List.map_nil, hsize, utf8Size_hexDigit a ha, utf8Size_hexDigit b hb, List.foldr_cons,
    List.foldr_nil, hzero, hexValue_hexDigit a ha, hexValue_hexDigit b hb]
  rw [if_neg (by decide), show ((0 * 16 + 0) * 16 + a) * 16 + b = a * 16 + b by omega]
  rfl

theorem readUnicodeEscape_control {a b : Nat} (ha : a < 2) (hb : b < 16) {r : List Char} :
    Reads d readUnicodeEscape ('0' :: '0' :: hexDigit a :: hexDigit b :: r)
      (Char.ofNat (a * 16 + b)) r := by
  unfold readUnicodeEscape
  refine Reads.bind (readHex4_control (by omega) hb) ?_
  have hlone : ¬((0xDC00 ≤ a * 16 + b && a * 16 + b ≤ 0xDFFF) = true) := by simp; omega
  have hbmp : (a * 16 + b < 0xD800 || 0xDBFF < a * 16 + b) = true := by simp; omega
  show Reads d (if _ then _ else if _ then _ else _) _ _ _
  rw [if_neg hlone, if_pos hbmp]
  exact Reads.pure _

theorem readEscape_letter {x ch : Char} {r : List Char}
    (h : (x, ch) ∈ [('"', '"'), ('\\', '\\'), ('n', '\n'), ('r', '\r'), ('t', '\t'),
      ('b', Char.ofNat 8), ('f', Char.ofNat 12)]) :
    Reads d readEscape (x :: r) ch r := by
  unfold readEscape
  refine Reads.bind nextChar_cons ?_
  simp only [List.mem_cons, Prod.mk.injEq, List.not_mem_nil, or_false] at h
  rcases h with ⟨rfl, rfl⟩ | ⟨rfl, rfl⟩ | ⟨rfl, rfl⟩ | ⟨rfl, rfl⟩ | ⟨rfl, rfl⟩ | ⟨rfl, rfl⟩ |
    ⟨rfl, rfl⟩ <;> exact Reads.pure _

theorem escapeChar_cases (c : Char) :
    (∃ tail, escapeChar c = '\\' :: tail ∧ ∀ r, Reads d readEscape (tail ++ r) c r) ∨
      (escapeChar c = [c] ∧ c ≠ '"' ∧ c ≠ '\\' ∧ ¬c.toNat < 32) := by
  have hof : ∀ n, c.toNat = n → Char.ofNat n = c := fun n h => h ▸ Char.ofNat_toNat c
  unfold escapeChar
  split_ifs with h1 h2 h3 h4 h5 h6 h7 h8
  · subst h1
    exact .inl ⟨_, rfl, fun r => readEscape_letter (by simp)⟩
  · subst h2
    exact .inl ⟨_, rfl, fun r => readEscape_letter (by simp)⟩
  · subst h3
    exact .inl ⟨_, rfl, fun r => readEscape_letter (by simp)⟩
  · subst h4
    exact .inl ⟨_, rfl, fun r => readEscape_letter (by simp)⟩
  · subst h5
    exact .inl ⟨_, rfl, fun r => readEscape_letter (by simp)⟩
  · refine .inl ⟨_, rfl, fun r => ?_⟩
    rw [← hof 8 h6]
    exact readEscape_letter (by simp)
  · refine .inl ⟨_, rfl, fun r => ?_⟩
    rw [← hof 12 h7]
    exact readEscape_letter (by simp)
  · refine .inl ⟨_, rfl, fun r => ?_⟩
    unfold readEscape
    refine Reads.bind nextChar_cons ?_
    have hcode := readUnicodeEscape_control (d := d) (r := r)
      (show c.toNat / 16 < 2 by omega) (show c.toNat % 16 < 16 by omega)
    rw [show c.toNat / 16 * 16 + c.toNat % 16 = c.toNat by omega, Char.ofNat_toNat] at hcode
    exact hcode
  · exact .inr ⟨rfl, h1, h2, h8⟩

theorem readStringBody_escapeChar (c : Char) {f : Nat} {acc : Array Char} {input rest : List Char}
    {v : String} (h : Reads d (readStringBody f (acc.push c)) input v rest) :
    Reads d (readStringBody (f + 1) acc) (escapeChar c ++ input) v rest := by
  unfold readStringBody
  rcases escapeChar_cases (d := d) c with ⟨tail, htail, hread⟩ | ⟨hplain, h1, h2, h3⟩
  · rw [htail, List.cons_append]
    refine Reads.bind nextChar_cons ?_
    show Reads d (readEscape >>= fun e => readStringBody f (acc.push e)) _ _ _
    exact Reads.bind (hread input) h
  · rw [hplain, List.singleton_append]
    refine Reads.bind nextChar_cons ?_
    split
    · contradiction
    · simp_all
    · simp_all
    · rename_i ch _ _ heq
      obtain rfl := Option.some.inj heq
      rw [if_neg h3]
      exact h

theorem length_le_length_flatMap_escapeChar :
    ∀ cs : List Char, cs.length ≤ (cs.flatMap escapeChar).length
  | [] => le_rfl
  | c :: cs => by
    have hc : 1 ≤ (escapeChar c).length := by
      rcases escapeChar_cases (d := 0) c with ⟨tail, htail, -⟩ | ⟨hplain, -⟩
      · simp [htail]
      · simp [hplain]
    have := length_le_length_flatMap_escapeChar cs
    simp only [List.flatMap_cons, List.length_append, List.length_cons]
    omega

/-- The body of a quoted string, up to its closing quote, reads back as the string. -/
theorem readStringBody_escaped (r : List Char) : ∀ (cs : List Char) (f : Nat) (acc : Array Char),
    cs.length < f →
    Reads d (readStringBody f acc) (cs.flatMap escapeChar ++ '"' :: r)
      (String.ofList (acc.toList ++ cs)) r
  | _, 0, _, h => absurd h (Nat.not_lt_zero _)
  | [], f + 1, acc, _ => by
    unfold readStringBody
    refine Reads.bind nextChar_cons ?_
    rw [List.append_nil]
    exact Reads.pure _
  | c :: cs, f + 1, acc, h => by
    rw [List.flatMap_cons, List.append_assoc]
    refine readStringBody_escapeChar c ?_
    have hrest := readStringBody_escaped r cs f (acc.push c) (by simp at h; omega)
    rwa [Array.toList_push, List.append_assoc, List.singleton_append] at hrest

theorem readString_escaped (s : String) (r : List Char) :
    Reads d readString (s.toList.flatMap escapeChar ++ '"' :: r) s r := by
  intro c hc hd
  have hlen : s.toList.length < c.rest.length + 1 := by
    have := length_le_length_flatMap_escapeChar s.toList
    rw [hc, List.length_append]
    omega
  obtain ⟨c', h, hr, hdd⟩ := readStringBody_escaped r s.toList (c.rest.length + 1) #[] hlen c hc hd
  refine ⟨c', ?_, hr, hdd⟩
  rw [show readString.run c = (readStringBody (c.rest.length + 1) #[]).run c from rfl, h]
  simp

theorem toList_quote (s : String) :
    (quote s).toList = '"' :: (s.toList.flatMap escapeChar ++ ['"']) := by
  rw [quote, String.toList_ofList]

theorem expectString_quote (pre : List Char) (hpre : ∀ x ∈ pre, Cursor.isBlank x = true)
    (s : String) (r : List Char) : Reads d expectString (pre ++ (quote s).toList ++ r) s r := by
  rw [toList_quote, List.append_assoc, List.cons_append, List.append_assoc, List.singleton_append]
  unfold expectString
  refine Reads.bind (peekToken_at hpre (by decide)) ?_
  show Reads d (bump >>= fun _ => readString) _ _ _
  exact Reads.bind bump_cons (readString_escaped s r)

end Strings

/-! ### Counts -/

section Counts

variable {d : Nat}

def digitsValue (sig : Nat) (ds : List Char) : Nat := ds.foldl (fun a ch => a * 10 + (ch.toNat - 48)) sig

theorem le_digitsValue : ∀ (sig : Nat) (ds : List Char), sig ≤ digitsValue sig ds
  | _, [] => le_rfl
  | sig, ch :: ds => le_trans (by omega) (le_digitsValue (sig * 10 + (ch.toNat - 48)) ds)

theorem readIntegerDigits_digits (r : List Char) (hr : ∀ ch ∈ r.head?, isDigit ch = false) :
    ∀ (ds : List Char) (f sig : Nat), (∀ ch ∈ ds, isDigit ch = true) → ds.length < f →
      digitsValue sig ds ≤ u64Max →
      Reads d (readIntegerDigits f sig) (ds ++ r) (digitsValue sig ds, none) r
  | _, 0, _, _, h, _ => absurd h (Nat.not_lt_zero _)
  | [], f + 1, sig, _, _, _ => by
    unfold readIntegerDigits
    cases r with
    | nil => exact Reads.bind peekChar_nil (Reads.pure _)
    | cons ch r =>
      refine Reads.bind peekChar_cons ?_
      show Reads d (if isDigit ch then _ else _) _ _ _
      rw [if_neg (by simpa using hr ch rfl)]
      exact Reads.pure _
  | ch :: ds, f + 1, sig, hds, hlen, hval => by
    unfold readIntegerDigits
    refine Reads.bind peekChar_cons ?_
    show Reads d (if isDigit ch then _ else _) _ _ _
    have hnext := le_digitsValue (sig * 10 + (ch.toNat - 48)) ds
    have hval' : digitsValue sig (ch :: ds) = digitsValue (sig * 10 + (ch.toNat - 48)) ds := rfl
    rw [if_pos (hds ch List.mem_cons_self), if_neg (by omega), hval']
    refine Reads.bind bump_cons ?_
    exact readIntegerDigits_digits r hr ds f _ (fun x hx => hds x (List.mem_cons_of_mem _ hx))
      (by simp at hlen; omega) (hval' ▸ hval)

theorem isDigit_of_mem_toDigits {n : Nat} {ch : Char} (h : ch ∈ Nat.toDigits 10 n) :
    isDigit ch = true := by
  have hd := Nat.isDigit_of_mem_toDigits (by decide) (by decide) h
  simp only [Char.isDigit, Bool.and_eq_true, decide_eq_true_eq] at hd
  simp only [isDigit, Bool.and_eq_true, decide_eq_true_eq, Char.le_def]
  exact hd

theorem digitsValue_append (sig : Nat) (ds es : List Char) :
    digitsValue sig (ds ++ es) = digitsValue (digitsValue sig ds) es := List.foldl_append

theorem digitsValue_toDigits (n : Nat) : digitsValue 0 (Nat.toDigits 10 n) = n := by
  induction n using Nat.strong_induction_on with
  | _ n ih =>
    rcases Nat.lt_or_ge n 10 with h | h
    · rw [Nat.toDigits_of_lt_base h]
      simp [digitsValue, Nat.toNat_digitChar_sub_48_of_lt_ten h]
    · rw [Nat.toDigits_of_base_le (by decide) h, digitsValue_append, ih (n / 10) (by omega)]
      simp only [digitsValue, List.foldl_cons, List.foldl_nil,
        Nat.toNat_digitChar_sub_48_of_lt_ten (Nat.mod_lt n (by decide))]
      omega

theorem toDigits_eq_cons {n : Nat} (hn : 0 < n) :
    ∃ d0 ds, Nat.toDigits 10 n = d0 :: ds ∧ d0 ≠ '0' := by
  induction n using Nat.strong_induction_on with
  | _ n ih =>
    rcases Nat.lt_or_ge n 10 with h | h
    · rw [Nat.toDigits_of_lt_base h]
      exact ⟨_, [], rfl, by simpa using Nat.pos_iff_ne_zero.1 hn⟩
    · obtain ⟨d0, ds, hds, hd0⟩ := ih (n / 10) (by omega) (by omega)
      rw [Nat.toDigits_of_base_le (by decide) h, hds]
      exact ⟨d0, _, rfl, hd0⟩

theorem readNumber_toDigits {n : Nat} (hn : n ≤ u64Max) {ch : Char} (hch : ch = ',' ∨ ch = '\n')
    (r : List Char) : Reads d (readNumber true) (Nat.toDigits 10 n ++ ch :: r) (.nat n) (ch :: r) := by
  have hnd : isDigit ch = false := by rcases hch with rfl | rfl <;> decide
  unfold readNumber
  rcases Nat.eq_zero_or_pos n with rfl | hpos
  · rw [Nat.toDigits_zero, List.singleton_append]
    refine Reads.bind nextChar_cons ?_
    split
    · contradiction
    · refine Reads.bind peekChar_cons ?_
      have hdot : ch ≠ '.' := by rcases hch with rfl | rfl <;> decide
      have hexp : (decide (ch = 'e') || decide (ch = 'E')) = false := by
        rcases hch with rfl | rfl <;> decide
      simp only [hnd, hdot, hexp, Bool.false_eq_true, if_false]
      exact Reads.pure _
    · rename_i hzero heq
      exact absurd (Option.some.inj heq).symm hzero
  · obtain ⟨d0, ds, hds, hd0⟩ := toDigits_eq_cons hpos
    have hdig : ∀ x ∈ d0 :: ds, isDigit x = true := fun x hx => isDigit_of_mem_toDigits (hds ▸ hx)
    have hval : digitsValue (d0.toNat - 48) ds = n := by
      have h := digitsValue_toDigits n
      rw [hds] at h
      rw [← h, digitsValue, digitsValue, List.foldl_cons, Nat.zero_mul, Nat.zero_add]
    rw [hds, List.cons_append]
    refine Reads.bind nextChar_cons ?_
    split
    · contradiction
    · rename_i heq
      exact absurd (Option.some.inj heq) hd0
    · rename_i heq
      obtain rfl := Option.some.inj heq
      rw [if_pos (hdig _ List.mem_cons_self)]
      refine Reads.get_bind fun c hc => ?_
      have hlen : ds.length < c.rest.length := by rw [hc]; simp
      refine Reads.bind (readIntegerDigits_digits (ch :: r) (by simpa using hnd) ds _ _
        (fun x hx => hdig x (List.mem_cons_of_mem _ hx)) hlen (hval ▸ hn)) ?_
      rw [hval]
      refine Reads.bind peekChar_cons ?_
      rcases hch with rfl | rfl <;> exact Reads.pure _

theorem isBlank_of_isDigit {c : Char} (h : isDigit c = true) : Cursor.isBlank c = false := by
  revert h
  simp only [isDigit, Cursor.isBlank, Bool.and_eq_true, decide_eq_true_eq, Char.le_def]
  intro h
  simp only [Bool.or_eq_false_iff, decide_eq_false_iff_not]
  refine ⟨⟨⟨?_, ?_⟩, ?_⟩, ?_⟩ <;> rintro rfl <;> simp at h

theorem expectCount_repr (pre : List Char) (hpre : ∀ x ∈ pre, Cursor.isBlank x = true) {n : Nat}
    (hn : n ≤ wordMax) {ch : Char} (hch : ch = ',' ∨ ch = '\n') (r : List Char) :
    Reads d expectCount (pre ++ (Nat.repr n).toList ++ ch :: r) n (ch :: r) := by
  have hdigits : (Nat.repr n).toList = Nat.toDigits 10 n := by
    rw [Nat.repr, String.toList_ofList]
  have hnum := readNumber_toDigits (d := d) (show n ≤ u64Max from hn) hch r
  obtain ⟨d0, ds, hds, -⟩ : ∃ d0 ds, Nat.toDigits 10 n = d0 :: ds ∧ True :=
    ⟨_, _, (List.cons_head_tail Nat.toDigits_ne_nil).symm, trivial⟩
  have hd0 : isDigit d0 = true := isDigit_of_mem_toDigits (by rw [hds]; exact List.mem_cons_self)
  rw [hdigits, hds, List.append_assoc, List.cons_append]
  rw [hds, List.cons_append] at hnum
  unfold expectCount
  refine Reads.bind (peekToken_at hpre (isBlank_of_isDigit hd0)) ?_
  split
  · contradiction
  · rename_i heq
    obtain rfl := Option.some.inj heq
    simp [isDigit] at hd0
  · rename_i heq
    obtain rfl := Option.some.inj heq
    rw [if_pos hd0]
    refine Reads.bind hnum ?_
    show Reads d (placed (if n ≤ wordMax then .ok n else _)) _ _ _
    rw [if_pos hn]
    exact Reads.pure _

end Counts

/-! ### Objects -/

section Objects

variable {d : Nat}

theorem toList_indent (level : Nat) : (indent level).toList = List.replicate (2 * level) ' ' := by
  rw [indent, String.toList_ofList]

theorem isBlank_of_mem_indent {level : Nat} {x : Char} (h : x ∈ (indent level).toList) :
    Cursor.isBlank x = true := by
  rw [toList_indent, List.mem_replicate] at h
  rw [h.2]
  rfl

theorem blank_line_indent (level : Nat) : ∀ x ∈ '\n' :: (indent level).toList, Cursor.isBlank x = true := by
  intro x hx
  rcases List.mem_cons.1 hx with rfl | hx
  · rfl
  · exact isBlank_of_mem_indent hx

theorem nextKey_quote (first : Bool) (level : Nat) (k : String) (r : List Char) :
    Reads d (nextKey first)
      ((if first then ['\n'] else [',', '\n']) ++ (indent level).toList ++ (quote k).toList ++ r)
      (some k) r := by
  rw [toList_quote]
  unfold nextKey
  cases first
  · simp only [Bool.false_eq_true, if_false, List.append_assoc, List.cons_append, List.nil_append]
    refine Reads.bind (peekToken_head (by decide)) ?_
    show Reads d (bump >>= fun _ => _) _ _ _
    refine Reads.bind bump_cons ?_
    refine Reads.bind (peekToken_at (blank_line_indent level) (by decide)) ?_
    show Reads d (bump >>= fun _ => readString >>= fun k => pure (some k)) _ _ _
    exact Reads.bind bump_cons (Reads.bind (readString_escaped k r) (Reads.pure _))
  · simp only [if_true, List.append_assoc, List.cons_append, List.nil_append]
    refine Reads.bind (peekToken_at (blank_line_indent level) (by decide)) ?_
    show Reads d (bump >>= fun _ => readString >>= fun k => pure (some k)) _ _ _
    exact Reads.bind bump_cons (Reads.bind (readString_escaped k r) (Reads.pure _))

theorem readColon_cons {r : List Char} : Reads d readColon (':' :: r) () r := by
  unfold readColon
  refine Reads.bind (peekToken_head (by decide)) ?_
  exact bump_cons

theorem recordEntries_step {β : Type} (fields : List (String × Reading β)) {f : Nat} (first : Bool)
    {acc : List (String × β)} (level : Nat) {k : String} {rd : Reading β} {b : β}
    {input after rest : List Char} {v : Except String (List (String × β))}
    (hk : fields.lookup k = some rd) (hacc : acc.lookup k = none)
    (hread : Reads d rd input b after)
    (hnext : Reads d (recordEntries fields f false ((k, b) :: acc)) after v rest) :
    Reads d (recordEntries fields (f + 1) first acc)
      ((if first then ['\n'] else [',', '\n']) ++ (indent level).toList ++ (quote k).toList ++
        ':' :: input) v rest := by
  unfold recordEntries
  refine Reads.bind (nextKey_quote first level k _) ?_
  dsimp only
  rw [hk]
  dsimp only
  rw [hacc, Option.isSome_none, if_neg Bool.false_ne_true]
  exact Reads.bind readColon_cons (Reads.bind hread hnext)

theorem recordEntries_close {β : Type} (fields : List (String × Reading β)) (f : Nat)
    (acc : List (String × β)) (level : Nat) (r : List Char) :
    Reads d (recordEntries fields (f + 1) false acc) ('\n' :: ((indent level).toList ++ '}' :: r))
      (.ok acc) ('}' :: r) := by
  unfold recordEntries nextKey
  exact Reads.bind (Reads.bind (peekToken_at (blank_line_indent level) (by decide)) (Reads.pure _))
    (Reads.pure _)

theorem toList_prettyFields_single (level : Nat) (kv : String × Json) :
    (prettyFields level [kv]).toList =
      (indent level).toList ++ ((quote kv.1).toList ++ ':' :: ' ' :: (pretty level kv.2).toList) := by
  obtain ⟨k, v⟩ := kv
  simp [prettyFields, String.toList_append]

theorem toList_prettyFields_cons (level : Nat) (kv kv' : String × Json) (rest : List (String × Json)) :
    (prettyFields level (kv :: kv' :: rest)).toList =
      (indent level).toList ++ ((quote kv.1).toList ++ ':' :: ' ' :: ((pretty level kv.2).toList ++
        ',' :: '\n' :: (prettyFields level (kv' :: rest)).toList)) := by
  obtain ⟨k, v⟩ := kv
  simp [prettyFields, String.toList_append]

/-- The fields of a pretty object, one per line in the order given, read back by their keys'
readers: each key is known and comes once, and every value is read by its key's reader up to the
comma or line end after it. -/
theorem recordEntries_prettyFields {β : Type} (fields : List (String × Reading β)) (level outer : Nat)
    (r : List Char) : ∀ (kvs : List (String × Json)) (bs : List β) (f : Nat) (first : Bool)
      (acc : List (String × β)), kvs ≠ [] → kvs.length < f →
      List.Forall₂ (fun kv b => ∃ rd, fields.lookup kv.1 = some rd ∧ ∀ ch rest, (ch = ',' ∨ ch = '\n') →
        Reads d rd (' ' :: ((pretty level kv.2).toList ++ ch :: rest)) b (ch :: rest)) kvs bs →
      (kvs.map Prod.fst).Nodup → (∀ kv ∈ kvs, acc.lookup kv.1 = none) →
      Reads d (recordEntries fields f first acc)
        ((if first then ['\n'] else [',', '\n']) ++ ((prettyFields level kvs).toList ++
          '\n' :: ((indent outer).toList ++ '}' :: r)))
        (.ok (((kvs.map Prod.fst).zip bs).reverse ++ acc)) ('}' :: r)
  | [], _, _, _, _, h, _, _, _, _ => absurd rfl h
  | _, _, 0, _, _, _, h, _, _, _ => absurd h (Nat.not_lt_zero _)
  | [kv], [b], f + 1, first, acc, _, hf, hread, _, hacc => by
    obtain ⟨rd, hk, hrd⟩ := List.forall₂_cons.1 hread |>.1
    obtain ⟨f, rfl⟩ : ∃ f', f = f' + 1 := ⟨f - 1, by simp at hf; omega⟩
    rw [toList_prettyFields_single]
    simp only [List.append_assoc, List.cons_append]
    have hstep := recordEntries_step fields first level hk (hacc kv List.mem_cons_self)
      (hrd '\n' _ (.inr rfl)) (recordEntries_close fields f ((kv.1, b) :: acc) outer r)
    simpa only [List.append_assoc, List.cons_append, List.map_cons, List.map_nil, List.zip_cons_cons,
      List.zip_nil_left, List.reverse_singleton, List.singleton_append, List.nil_append] using hstep
  | kv :: kv' :: rest, b :: b' :: bs, f + 1, first, acc, _, hf, hread, hnd, hacc => by
    obtain ⟨⟨rd, hk, hrd⟩, hread'⟩ := List.forall₂_cons.1 hread
    rw [List.map_cons, List.nodup_cons] at hnd
    have hrest := recordEntries_prettyFields fields level outer r (kv' :: rest) (b' :: bs) f false
      ((kv.1, b) :: acc) (List.cons_ne_nil _ _) (by simp at hf ⊢; omega) hread' hnd.2
      (fun x hx => by
        rw [List.lookup_cons]
        have hne : (x.1 == kv.1) = false := by
          rw [beq_eq_false_iff_ne]
          rintro h
          exact hnd.1 (h ▸ List.mem_map_of_mem hx)
        rw [hne]
        exact hacc x (List.mem_cons_of_mem _ hx))
    rw [toList_prettyFields_cons]
    simp only [Bool.false_eq_true, if_false, List.cons_append, List.nil_append] at hrest
    have hstep := recordEntries_step fields first level hk (hacc kv List.mem_cons_self)
      (hrd ',' _ (.inl rfl)) hrest
    simpa only [List.append_assoc, List.cons_append, List.map_cons, List.zip_cons_cons,
      List.reverse_cons, List.nil_append] using hstep
  | [_], [], _, _, _, _, _, h, _, _ => by simp at h
  | [_], _ :: _ :: _, _, _, _, _, _, h, _, _ => by simp at h
  | _ :: _ :: _, [], _, _, _, _, _, h, _, _ => by simp at h
  | _ :: _ :: _, [_], _, _, _, _, _, h, _, _ => by simp at h

theorem ok_bind {ε α β : Type} (a : α) (f : α → Except ε β) : (Except.ok a >>= f) = f a := rfl

theorem bump_run (c : Cursor) : bump.run c = .ok ((), c.bump) := rfl

theorem enterNested_run {c : Cursor} (hc : 2 ≤ c.depth) :
    enterNested.run c = .ok ((), { c with depth := c.depth - 1 }) := by
  simp only [enterNested, StateT.run_bind, StateT.run_get, pure_bind]
  rw [if_neg (by omega)]
  rfl

theorem leaveNested_run (c : Cursor) :
    leaveNested.run c = .ok ((), { c with depth := c.depth + 1 }) := rfl

theorem closeObject_brace {r : List Char} : Reads d closeObject ('}' :: r) () r := by
  unfold closeObject
  exact Reads.bind (peekToken_head (by decide)) bump_cons

/-- An object read as a record: after its opening brace the entries are read one level deeper, up
to the closing brace, and the fields collected in declaration order. -/
theorem readRecord_object {β : Type} (name : String) (fields : List (String × Reading β))
    {pre body r : List Char} {found : List (String × β)} {bs : List β}
    (hpre : ∀ x ∈ pre, Cursor.isBlank x = true)
    (hentries : ∀ f, body.length < f →
      Reads 0 (recordEntries fields f true []) body (.ok found) ('}' :: r))
    (hcollect : collectFields fields found = .ok bs) :
    Reads 2 (readRecord name fields) (pre ++ '{' :: body) bs r := by
  unfold readRecord
  refine Reads.bind (peekToken_at hpre (by decide)) ?_
  intro c hc hd
  obtain ⟨hb, hbd⟩ := Cursor.bump_cons (c := { c with depth := c.depth - 1 }) hc
  obtain ⟨c₁, h₁, hr₁, hd₁⟩ := hentries (body.length + 1) (Nat.lt_succ_self _) _ hb (Nat.zero_le _)
  obtain ⟨c₂, h₂, hr₂, hd₂⟩ := closeObject_brace (d := 0) { c₁ with depth := c₁.depth + 1 } hr₁
    (Nat.zero_le _)
  refine ⟨c₂, ?_, hr₂, ?_⟩
  · show (enterNested >>= fun _ => bump >>= fun _ => get >>= fun g =>
      recordEntries fields (g.rest.length + 1) true [] >>= fun entries => leaveNested >>= fun _ =>
        finishRecord (entries.bind (collectFields fields)) closeObject passObjectEnd).run c = _
    rw [StateT.run_bind, enterNested_run hd, ok_bind, StateT.run_bind, bump_run, ok_bind,
      StateT.run_bind, StateT.run_get, pure_bind]
    dsimp only
    rw [hb, StateT.run_bind, h₁, ok_bind, StateT.run_bind, leaveNested_run, ok_bind]
    dsimp only
    rw [Except.bind, hcollect]
    show (closeObject >>= fun _ => Pure.pure bs).run _ = _
    rw [StateT.run_bind, h₂, ok_bind]
    rfl
  · rw [hd₂, hd₁, hbd]
    dsimp only
    omega

theorem length_le_prettyFields (level : Nat) :
    ∀ kvs : List (String × Json), kvs.length ≤ (prettyFields level kvs).toList.length
  | [] => Nat.zero_le _
  | [kv] => by
    rw [toList_prettyFields_single]
    simp only [List.length_append, List.length_cons, List.length_nil]
    omega
  | kv :: kv' :: rest => by
    have := length_le_prettyFields level (kv' :: rest)
    rw [toList_prettyFields_cons]
    simp only [List.length_append, List.length_cons] at this ⊢
    omega

end Objects

/-! ### Arrays -/

section Arrays

variable {d : Nat}

theorem nextItem_first {pre r : List Char} {ch : Char} (hpre : ∀ x ∈ pre, Cursor.isBlank x = true)
    (hch : Cursor.isBlank ch = false) (hclose : ch ≠ ']') :
    Reads d (nextItem true) (pre ++ ch :: r) (some ch) (ch :: r) := by
  unfold nextItem
  refine Reads.bind (peekToken_at hpre hch) ?_
  split
  · contradiction
  · rename_i heq
    exact absurd (Option.some.inj heq) hclose
  · rename_i heq
    obtain rfl := Option.some.inj heq
    exact Reads.pure _

theorem nextItem_comma {pre r : List Char} {ch : Char} (hpre : ∀ x ∈ pre, Cursor.isBlank x = true)
    (hch : Cursor.isBlank ch = false) (hclose : ch ≠ ']') :
    Reads d (nextItem false) (',' :: (pre ++ ch :: r)) (some ch) (ch :: r) := by
  unfold nextItem
  refine Reads.bind (peekToken_head (by decide)) ?_
  show Reads d (if _ then _ else if _ then _ else _) _ _ _
  rw [if_neg Bool.false_ne_true, if_pos rfl]
  refine Reads.bind bump_cons (Reads.bind (peekToken_at hpre hch) ?_)
  split
  · rename_i heq
    exact absurd (Option.some.inj heq) hclose
  · rename_i heq
    obtain rfl := Option.some.inj heq
    exact Reads.pure _
  · contradiction

theorem nextItem_close (first : Bool) (pre : List Char) {r : List Char}
    (hpre : ∀ x ∈ pre, Cursor.isBlank x = true) :
    Reads d (nextItem first) (pre ++ ']' :: r) none (']' :: r) := by
  unfold nextItem
  exact Reads.bind (peekToken_at hpre (by decide)) (Reads.pure _)

theorem closeArray_bracket {r : List Char} : Reads d closeArray (']' :: r) () r := by
  unfold closeArray
  exact Reads.bind (peekToken_head (by decide)) bump_cons

/-- An array read by an item reader: after its opening bracket the items are read one level
deeper, up to the closing bracket. -/
theorem readList_array {α : Type} (item : Reading α) {pre body r : List Char} {xs : List α}
    (hpre : ∀ x ∈ pre, Cursor.isBlank x = true)
    (hitems : ∀ f, body.length < f → Reads 2 (listItems item f true #[]) body xs (']' :: r)) :
    Reads 3 (readList item) (pre ++ '[' :: body) xs r := by
  unfold readList
  refine Reads.bind (peekToken_at hpre (by decide)) ?_
  intro c hc hd
  obtain ⟨hb, hbd⟩ := Cursor.bump_cons (c := { c with depth := c.depth - 1 }) hc
  obtain ⟨c₁, h₁, hr₁, hd₁⟩ := hitems (body.length + 1) (Nat.lt_succ_self _) _ hb
    (by rw [hbd]; dsimp only; omega)
  obtain ⟨c₂, h₂, hr₂, hd₂⟩ := closeArray_bracket (d := 0) { c₁ with depth := c₁.depth + 1 } hr₁
    (Nat.zero_le _)
  refine ⟨c₂, ?_, hr₂, ?_⟩
  · show (enterNested >>= fun _ => bump >>= fun _ => get >>= fun g =>
      listItems item (g.rest.length + 1) true #[] >>= fun items => leaveNested >>= fun _ =>
        closeArray >>= fun _ => Pure.pure items).run c = _
    rw [StateT.run_bind, enterNested_run (by omega), ok_bind, StateT.run_bind, bump_run, ok_bind,
      StateT.run_bind, StateT.run_get, pure_bind]
    dsimp only
    rw [hb, StateT.run_bind, h₁, ok_bind, StateT.run_bind, leaveNested_run, ok_bind,
      StateT.run_bind, h₂, ok_bind]
    rfl
  · rw [hd₂, hd₁, hbd]
    dsimp only
    omega

end Arrays

end Linewise.Json

/-! ### Chunks -/

namespace Linewise

open Json

/-- A chunk whose line numbers each fit a machine word. -/
def CodeChunk.Fits (c : CodeChunk) : Prop :=
  c.startLine ≤ wordMax ∧ c.endLine ≤ wordMax ∧ c.targetStart ≤ wordMax ∧ c.targetEnd ≤ wordMax

theorem pretty_nat (level n : Nat) : pretty level (.nat n) = Nat.repr n := rfl

theorem pretty_str (level : Nat) (s : String) : pretty level (.str s) = quote s := rfl

theorem blank_space : ∀ x ∈ [' '], Cursor.isBlank x = true := by
  intro x hx
  rw [List.mem_singleton.1 hx]
  rfl

theorem countReader_repr {d n : Nat} (hn : n ≤ wordMax) (ch : Char) (r : List Char)
    (hch : ch = ',' ∨ ch = '\n') :
    Reads d (ChunkField.count <$> expectCount) (' ' :: ((pretty 2 (.nat n)).toList ++ ch :: r))
      (ChunkField.count n) (ch :: r) := by
  rw [pretty_nat]
  exact Reads.map (expectCount_repr [' '] blank_space hn hch r)

theorem textReader_quote {d : Nat} (s : String) (ch : Char) (r : List Char) :
    Reads d (ChunkField.text <$> expectString) (' ' :: ((pretty 2 (.str s)).toList ++ ch :: r))
      (ChunkField.text s) (ch :: r) := by
  rw [pretty_str]
  exact Reads.map (expectString_quote [' '] blank_space s (ch :: r))

/-- A chunk printed as a pretty object inside a list, after blanks, reads back as the chunk. -/
theorem read_pretty (c : CodeChunk) (hc : c.Fits) (pre : List Char)
    (hpre : ∀ x ∈ pre, Cursor.isBlank x = true) (r : List Char) :
    Reads 2 CodeChunk.read (pre ++ ((pretty 1 c.toJson).toList ++ r)) c r := by
  obtain ⟨hs, he, hts, hte⟩ := hc
  have hfields : CodeChunk.toJson c = .obj [("start_line", .nat c.startLine),
      ("end_line", .nat c.endLine), ("content", .str c.content), ("signature", .str c.signature),
      ("file_path", .str c.filePath), ("context_before", .str c.contextBefore),
      ("context_after", .str c.contextAfter), ("target_start", .nat c.targetStart),
      ("target_end", .nat c.targetEnd)] := rfl
  have hopen : "\x7b\n".toList = ['{', '\n'] := rfl
  have hline : "\n".toList = ['\n'] := rfl
  have hclose : "\x7d".toList = ['}'] := rfl
  rw [hfields]
  simp only [pretty, String.toList_append, List.append_assoc, hopen, hline, hclose, List.cons_append,
    List.nil_append]
  generalize hkvs : [("start_line", Json.nat c.startLine), ("end_line", .nat c.endLine),
    ("content", .str c.content), ("signature", .str c.signature), ("file_path", .str c.filePath),
    ("context_before", .str c.contextBefore), ("context_after", .str c.contextAfter),
    ("target_start", .nat c.targetStart), ("target_end", .nat c.targetEnd)] = kvs
  have hread : List.Forall₂ (fun kv b => ∃ rd, chunkReaders.lookup kv.1 = some rd ∧
      ∀ ch rest, (ch = ',' ∨ ch = '\n') →
        Reads 0 rd (' ' :: ((pretty 2 kv.2).toList ++ ch :: rest)) b (ch :: rest)) kvs
      [.count c.startLine, .count c.endLine, .text c.content, .text c.signature, .text c.filePath,
        .text c.contextBefore, .text c.contextAfter, .count c.targetStart, .count c.targetEnd] := by
    subst hkvs
    refine .cons ⟨_, rfl, fun ch rest hch => countReader_repr hs ch rest hch⟩ <|
      .cons ⟨_, rfl, fun ch rest hch => countReader_repr he ch rest hch⟩ <|
      .cons ⟨_, rfl, fun ch rest _ => textReader_quote _ ch rest⟩ <|
      .cons ⟨_, rfl, fun ch rest _ => textReader_quote _ ch rest⟩ <|
      .cons ⟨_, rfl, fun ch rest _ => textReader_quote _ ch rest⟩ <|
      .cons ⟨_, rfl, fun ch rest _ => textReader_quote _ ch rest⟩ <|
      .cons ⟨_, rfl, fun ch rest _ => textReader_quote _ ch rest⟩ <|
      .cons ⟨_, rfl, fun ch rest hch => countReader_repr hts ch rest hch⟩ <|
      .cons ⟨_, rfl, fun ch rest hch => countReader_repr hte ch rest hch⟩ .nil
  generalize hbs : [ChunkField.count c.startLine, .count c.endLine, .text c.content,
    .text c.signature, .text c.filePath, .text c.contextBefore, .text c.contextAfter,
    .count c.targetStart, .count c.targetEnd] = bs at hread
  have hentries : ∀ f, ('\n' :: ((prettyFields (1 + 1) kvs).toList ++
      '\n' :: ((indent 1).toList ++ '}' :: r))).length < f →
      Reads 0 (recordEntries chunkReaders f true []) ('\n' :: ((prettyFields (1 + 1) kvs).toList ++
        '\n' :: ((indent 1).toList ++ '}' :: r))) (.ok ((kvs.map Prod.fst).zip bs).reverse) ('}' :: r) := by
    intro f hf
    have h := recordEntries_prettyFields (d := 0) chunkReaders 2 1 r kvs bs f true []
      (by subst hkvs; exact List.cons_ne_nil _ _)
      (lt_of_le_of_lt (length_le_prettyFields 2 kvs) (by simp at hf ⊢; omega))
      hread (by subst hkvs; simp only [List.map_cons, List.map_nil]; decide) (by simp)
    simpa using h
  unfold CodeChunk.read
  refine Reads.bind (readRecord_object "CodeChunk" chunkReaders hpre hentries
    (by subst hkvs hbs; rfl)) ?_
  subst hbs
  exact Reads.pure _

theorem toList_pretty_toJson (c : CodeChunk) :
    ∃ t, (pretty 1 c.toJson).toList = '{' :: t :=
  ⟨_, by simp [CodeChunk.toJson, pretty, String.toList_append]; rfl⟩

theorem toList_prettyItems_single (x : Json) :
    (prettyItems 1 [x]).toList = (indent 1).toList ++ (pretty 1 x).toList := by
  simp [prettyItems, String.toList_append]

theorem toList_prettyItems_cons (x y : Json) (ys : List Json) :
    (prettyItems 1 (x :: y :: ys)).toList = (indent 1).toList ++ ((pretty 1 x).toList ++
      ',' :: '\n' :: (prettyItems 1 (y :: ys)).toList) := by
  simp [prettyItems, String.toList_append]

theorem listItems_prettyItems (r : List Char) : ∀ (cs : List CodeChunk) (f : Nat) (first : Bool)
    (acc : Array CodeChunk), cs ≠ [] → cs.length < f → (∀ c ∈ cs, c.Fits) →
    Reads 2 (listItems CodeChunk.read f first acc)
      ((if first then ['\n'] else [',', '\n']) ++
        ((prettyItems 1 (cs.map CodeChunk.toJson)).toList ++ '\n' :: ']' :: r))
      (acc.toList ++ cs) (']' :: r)
  | [], _, _, _, h, _, _ => absurd rfl h
  | _, 0, _, _, _, h, _ => absurd h (Nat.not_lt_zero _)
  | c :: rest, f + 1, first, acc, _, hf, hfits => by
    obtain ⟨t, ht⟩ := toList_pretty_toJson c
    -- the item is found where its opening brace stands, whether it is the first or follows a comma
    have hfind : ∀ after : List Char, Reads 2 (nextItem first)
        ((if first then ['\n'] else [',', '\n']) ++ ((indent 1).toList ++ ('{' :: t ++ after)))
        (some '{') ('{' :: t ++ after) := by
      intro after
      cases first
      · simpa using nextItem_comma (blank_line_indent 1) (by decide) (by decide)
      · simpa using nextItem_first (blank_line_indent 1) (by decide) (by decide)
    unfold listItems
    cases rest with
    | nil =>
      rw [List.map_singleton, toList_prettyItems_single, List.append_assoc, ht]
      refine Reads.bind (hfind _) ?_
      show Reads 2 (CodeChunk.read >>= fun x => listItems CodeChunk.read f false (acc.push x)) _ _ _
      have hread := read_pretty c (hfits c List.mem_cons_self) [] (by simp) ('\n' :: ']' :: r)
      rw [List.nil_append, ht] at hread
      refine Reads.bind hread ?_
      obtain ⟨f, rfl⟩ : ∃ f', f = f' + 1 := ⟨f - 1, by simp at hf; omega⟩
      unfold listItems
      refine Reads.bind (nextItem_close false ['\n'] (by simp; rfl)) ?_
      rw [show acc.toList ++ [c] = (acc.push c).toList by simp]
      exact Reads.pure _
    | cons c' rest =>
      rw [List.map_cons, List.map_cons, toList_prettyItems_cons, List.append_assoc, ht]
      simp only [List.cons_append, List.append_assoc]
      refine Reads.bind (hfind _) ?_
      show Reads 2 (CodeChunk.read >>= fun x => listItems CodeChunk.read f false (acc.push x)) _ _ _
      have hread := read_pretty c (hfits c List.mem_cons_self) [] (by simp)
        (',' :: '\n' :: ((prettyItems 1 (c'.toJson :: rest.map CodeChunk.toJson)).toList ++
          '\n' :: ']' :: r))
      rw [List.nil_append, ht] at hread
      refine Reads.bind hread ?_
      have hrest := listItems_prettyItems r (c' :: rest) f false (acc.push c) (List.cons_ne_nil _ _)
        (by simp at hf ⊢; omega) (fun x hx => hfits x (List.mem_cons_of_mem _ hx))
      simpa using hrest

theorem length_le_prettyItems :
    ∀ cs : List CodeChunk, cs.length ≤ (prettyItems 1 (cs.map CodeChunk.toJson)).toList.length
  | [] => Nat.zero_le _
  | [c] => by
    obtain ⟨t, ht⟩ := toList_pretty_toJson c
    rw [List.map_singleton, toList_prettyItems_single, ht]
    simp only [List.length_append, List.length_cons, List.length_nil]
    omega
  | c :: c' :: rest => by
    obtain ⟨t, ht⟩ := toList_pretty_toJson c
    have := length_le_prettyItems (c' :: rest)
    rw [List.map_cons, List.map_cons, toList_prettyItems_cons, ht]
    rw [List.map_cons] at this
    simp only [List.length_append, List.length_cons] at this ⊢
    omega

/-- Chunks printed as a pretty JSON list, with a line end after it, read back as the same chunks
when their line numbers fit a machine word. -/
theorem readAll_pretty (cs : List CodeChunk) (hcs : ∀ c ∈ cs, c.Fits) :
    CodeChunk.readAll (pretty 0 (.arr (cs.map CodeChunk.toJson)) ++ "\n") = .ok cs := by
  have hlist : Reads 3 (readList CodeChunk.read)
      (pretty 0 (.arr (cs.map CodeChunk.toJson)) ++ "\n").toList cs ['\n'] := by
    cases cs with
    | nil =>
      have htext : (pretty 0 (.arr (([] : List CodeChunk).map CodeChunk.toJson)) ++ "\n").toList =
          [] ++ '[' :: [']', '\n'] := rfl
      rw [htext]
      refine readList_array CodeChunk.read (by simp) ?_
      intro f hf
      obtain ⟨f, rfl⟩ : ∃ f', f = f' + 1 := ⟨f - 1, by simp at hf; omega⟩
      unfold listItems
      exact Reads.bind (nextItem_close true [] (by simp)) (Reads.pure _)
    | cons c rest =>
      have htext : (pretty 0 (.arr ((c :: rest).map CodeChunk.toJson)) ++ "\n").toList =
          [] ++ '[' :: ('\n' :: ((prettyItems 1 ((c :: rest).map CodeChunk.toJson)).toList ++
            '\n' :: ']' :: ['\n'])) := by
        simp [pretty, String.toList_append, indent]
      rw [htext]
      refine readList_array CodeChunk.read (by simp) fun f hf => ?_
      have h := listItems_prettyItems ['\n'] (c :: rest) f true #[] (List.cons_ne_nil _ _)
        (lt_of_le_of_lt (length_le_prettyItems _) (by simp at hf ⊢; omega)) hcs
      simpa using h
  unfold CodeChunk.readAll readDocument
  dsimp only
  refine Reads.map_run (?_ : Reads 3 _ _ cs []) rfl (show 3 ≤ 128 by decide)
  refine Reads.bind hlist (Reads.bind (peekToken_end ['\n'] (by simp; rfl)) ?_)
  exact Reads.pure _

end Linewise
