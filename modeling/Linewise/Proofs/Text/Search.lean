import Linewise.Text.Search
import Mathlib
/-! Occurrences of one text in another. A needle occurs at position `i` when it is a prefix of
the text from `i` on; replacing the first occurrence keeps what stands before it, exchanges
the needle for the replacement and keeps the rest. -/
namespace Linewise.Text

/-- The positions at which `needle` starts in `hay`. -/
def occurrencePositions (hay needle : List Char) : List Nat :=
  (List.range (hay.length + 1)).filter fun i => needle.isPrefixOf (hay.drop i)

/-- How many times `needle` occurs in `s`, overlapping occurrences counted apart. -/
def occurrenceCount (s needle : String) : Nat :=
  (occurrencePositions s.toList needle.toList).length

/-- The list `s` with the `n` characters from position `i` exchanged for `r`. -/
def splice (s : List Char) (i n : Nat) (r : List Char) : List Char :=
  s.take i ++ r ++ s.drop (i + n)

theorem occursIn_iff {needle hay : List Char} :
    occursIn needle hay = true ↔ ∃ i, needle <+: hay.drop i := by
  induction hay with
  | nil => simp [occursIn, List.isEmpty_iff]
  | cons c cs ih =>
    simp only [occursIn, Bool.or_eq_true, List.isPrefixOf_iff_prefix, ih]
    constructor
    · rintro (h | ⟨i, h⟩)
      · exact ⟨0, h⟩
      · exact ⟨i + 1, h⟩
    · rintro ⟨_ | i, h⟩
      · exact .inl h
      · exact .inr ⟨i, h⟩

theorem contains_iff {s needle : String} :
    contains s needle = true ↔ ∃ i, needle.toList <+: s.toList.drop i :=
  occursIn_iff

theorem replaceFirstChars_eq_splice {needle repl : List Char} (hne : needle ≠ []) :
    ∀ (hay : List Char) (i : Nat), needle <+: hay.drop i → (∀ j < i, ¬ needle <+: hay.drop j) →
      replaceFirstChars needle repl hay = some (splice hay i needle.length repl)
  | [], i, hat, _ => by simp_all
  | c :: cs, i, hat, hfirst => by
    by_cases hp : needle <+: c :: cs
    · have hi : i = 0 := by
        by_contra h
        exact hfirst 0 (Nat.pos_of_ne_zero h) hp
      subst hi
      simp [replaceFirstChars, List.isPrefixOf_iff_prefix.2 hp, splice]
    · obtain _ | i := i
      · exact absurd hat hp
      have hrest := @replaceFirstChars_eq_splice needle repl hne cs i hat
        (fun j hj => hfirst (j + 1) (by omega))
      have hnp : needle.isPrefixOf (c :: cs) = false :=
        Bool.eq_false_iff.2 fun h => hp (List.isPrefixOf_iff_prefix.1 h)
      simp [replaceFirstChars, hnp, hrest, splice, Nat.add_right_comm]

theorem prefix_drop_iff_of_le {needle t : List Char} {r b : Nat} (hb : r + needle.length ≤ b) :
    needle <+: (t.take b).drop r ↔ needle <+: t.drop r := by
  rw [List.prefix_iff_eq_take, List.prefix_iff_eq_take, List.drop_take, List.take_take,
    Nat.min_eq_left (by omega)]

theorem prefix_drop_of_agree {needle t t' : List Char} {r b : Nat} (hb : r + needle.length ≤ b)
    (hagree : t'.take b = t.take b) (h : needle <+: t.drop r) : needle <+: t'.drop r := by
  rw [← prefix_drop_iff_of_le hb, hagree, prefix_drop_iff_of_le hb]
  exact h

theorem le_length_of_prefix_drop {needle t : List Char} {r : Nat} (hne : needle ≠ [])
    (h : needle <+: t.drop r) : r + needle.length ≤ t.length := by
  have hl := h.length_le
  have hpos : 0 < needle.length := List.length_pos_iff.2 hne
  simp only [List.length_drop] at hl
  omega

theorem mem_occurrencePositions {hay needle : List Char} {i : Nat} (hne : needle ≠ []) :
    i ∈ occurrencePositions hay needle ↔ needle <+: hay.drop i := by
  simp only [occurrencePositions, List.mem_filter, List.mem_range, List.isPrefixOf_iff_prefix]
  constructor
  · exact fun h => h.2
  · intro h
    exact ⟨by have := le_length_of_prefix_drop hne h; omega, h⟩

theorem eq_of_occurrenceCount_eq_one {s needle : String} (hne : needle ≠ "")
    (hcount : occurrenceCount s needle = 1) {i j : Nat}
    (hi : needle.toList <+: s.toList.drop i) (hj : needle.toList <+: s.toList.drop j) : i = j := by
  have hne' : needle.toList ≠ [] := fun h =>
    hne (String.toList_inj.1 (h.trans String.toList_empty.symm))
  obtain ⟨k, hk⟩ := List.length_eq_one_iff.1 hcount
  have hik : i ∈ [k] := hk ▸ (mem_occurrencePositions hne').2 hi
  have hjk : j ∈ [k] := hk ▸ (mem_occurrencePositions hne').2 hj
  simp only [List.mem_singleton] at hik hjk
  rw [hik, hjk]

/-- The occurrence of a needle that occurs once in `t` is still the first in any text agreeing
with `t` up to the occurrence's end. -/
theorem first_of_agree {needle t t' : List Char} {q b : Nat}
    (hq : needle <+: t.drop q) (hb : q + needle.length ≤ b) (hagree : t'.take b = t.take b)
    (huniq : ∀ r, needle <+: t.drop r → r = q) :
    needle <+: t'.drop q ∧ ∀ r < q, ¬ needle <+: t'.drop r := by
  refine ⟨prefix_drop_of_agree hb hagree hq, fun r hr hat => ?_⟩
  have hback : needle <+: t.drop r := prefix_drop_of_agree (by omega) hagree.symm hat
  exact absurd (huniq r hback) (by omega)

theorem take_splice {s r : List Char} {i n : Nat} (hi : i ≤ s.length) :
    (splice s i n r).take i = s.take i := by
  simp [splice, hi]

theorem drop_eq_append_of_prefix {needle t : List Char} {i : Nat} (h : needle <+: t.drop i) :
    t.drop i = needle ++ t.drop (i + needle.length) := by
  rw [← List.drop_drop, List.prefix_iff_eq_append.1 h]

theorem splice_middle {t x m y f : List Char} {q : Nat} (h : x ++ m ++ y <+: t.drop q) :
    splice t q (x ++ m ++ y).length (x ++ f ++ y) = splice t (q + x.length) m.length f := by
  have hd := drop_eq_append_of_prefix h
  have hx : t.take (q + x.length) = t.take q ++ x := by
    rw [List.take_add, hd]
    simp
  have hy : t.drop (q + x.length + m.length) = y ++ t.drop (q + (x ++ m ++ y).length) := by
    rw [← List.drop_drop, ← List.drop_drop, hd]
    simp
  rw [splice, splice, hx, hy]
  simp

theorem splice_frame {a u b r : List Char} {i n : Nat} (h : i + n ≤ u.length) :
    splice (a ++ u ++ b) (a.length + i) n r = a ++ splice u i n r ++ b := by
  have hi : i ≤ u.length := by omega
  simp [splice, List.take_append, List.drop_append, List.take_of_length_le,
    List.drop_eq_nil_of_le, hi, h, Nat.add_assoc]

theorem take_append_left_add {a u b : List Char} {p : Nat} (hp : p ≤ u.length) :
    (a ++ u ++ b).take (a.length + p) = a ++ u.take p := by
  simp [List.take_append, List.take_of_length_le, hp]

theorem prefix_drop_append {x t a b : List Char} {q : Nat} (h : x <+: t.drop q) :
    x <+: (a ++ t ++ b).drop (a.length + q) := by
  rw [List.append_assoc, List.drop_append, List.drop_append]
  simp only [Nat.add_sub_cancel_left, List.drop_eq_nil_of_le (Nat.le_add_right _ _), List.nil_append]
  exact h.trans (List.prefix_append _ _)

/-- Replacing the first occurrence of a non-empty needle splices the replacement in there. -/
theorem replaceFirst_eq_splice {s needle repl : String} {q : Nat} (hne : needle ≠ "")
    (hat : needle.toList <+: s.toList.drop q) (hfirst : ∀ r < q, ¬ needle.toList <+: s.toList.drop r) :
    replaceFirst s needle repl = String.ofList (splice s.toList q needle.length repl.toList) := by
  have hne' : needle.toList ≠ [] := fun h =>
    hne (String.toList_inj.1 (h.trans String.toList_empty.symm))
  have hempty : needle.isEmpty = false := String.isEmpty_eq_false_iff.2 hne
  rw [replaceFirst, hempty, if_neg Bool.false_ne_true,
    replaceFirstChars_eq_splice hne' s.toList q hat hfirst, String.length_toList]

theorem replaceFirstChars_self {needle : List Char} (hne : needle ≠ []) :
    ∀ {hay : List Char}, occursIn needle hay = true → replaceFirstChars needle needle hay = some hay
  | [], hin => by simp [occursIn, List.isEmpty_iff, hne] at hin
  | c :: cs, hin => by
    unfold replaceFirstChars
    split
    · next hp => exact congrArg some (List.prefix_iff_eq_append.1 (List.isPrefixOf_iff_prefix.1 hp))
    · next hp =>
      -- not here, so further on
      have hrest : occursIn needle cs = true := by simpa [occursIn, hp] using hin
      rw [replaceFirstChars_self hne hrest]
      rfl

theorem replaceFirst_self {s needle : String} (hne : needle ≠ "") (hin : contains s needle = true) :
    replaceFirst s needle needle = s := by
  have hne' : needle.toList ≠ [] := fun h =>
    hne (String.toList_inj.1 (h.trans String.toList_empty.symm))
  rw [replaceFirst, String.isEmpty_eq_false_iff.2 hne, if_neg Bool.false_ne_true,
    replaceFirstChars_self hne' hin]
  simp only [String.ofList_toList]

end Linewise.Text
