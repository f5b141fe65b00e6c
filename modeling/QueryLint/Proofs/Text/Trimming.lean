import Mathlib.Data.List.DropRight
import QueryLint.Text.Blank

/-!
# Laws of trimming

`trimBoth p` takes characters of the class `p` away from both ends and nothing else
(`exists_eq_append_trimBoth`), so characters outside the class are all kept (`count_trimBoth`). What
stands around a text, if it is of the class, makes no difference (`trimBoth_append`).
-/

namespace QueryLint.Text

variable {p : Char → Bool} {cs : List Char}

/-- Characters of the class at the end do not matter. -/
theorem rdropWhile_append_of_all {after : List Char} (h : ∀ c ∈ after, p c = true) :
    (cs ++ after).rdropWhile p = cs.rdropWhile p := by
  have hreverse : ∀ c ∈ after.reverse, p c = true := fun c hc ↦ h c (List.mem_reverse.mp hc)
  rw [List.rdropWhile, List.reverse_append, List.dropWhile_append_of_pos hreverse]
  rfl

theorem trimBoth_append {before after : List Char} (hbefore : ∀ c ∈ before, p c = true)
    (hafter : ∀ c ∈ after, p c = true) : trimBoth p (before ++ cs ++ after) = trimBoth p cs := by
  show ((before ++ cs ++ after).dropWhile p).rdropWhile p = (cs.dropWhile p).rdropWhile p
  rw [List.append_assoc, List.dropWhile_append_of_pos hbefore, List.dropWhile_append]
  split
  · next hnone =>
      rw [List.dropWhile_eq_nil_iff.mpr hafter, List.isEmpty_iff.mp hnone]
  · exact rdropWhile_append_of_all hafter

/-- Only characters of the class are taken away. -/
theorem exists_eq_append_trimBoth (p : Char → Bool) (cs : List Char) :
    ∃ before after, cs = before ++ trimBoth p cs ++ after ∧
      (∀ c ∈ before, p c = true) ∧ ∀ c ∈ after, p c = true := by
  refine ⟨cs.takeWhile p, (cs.dropWhile p).rtakeWhile p, ?_, ?_, ?_⟩
  · show cs = cs.takeWhile p ++ (cs.dropWhile p).rdropWhile p ++ (cs.dropWhile p).rtakeWhile p
    rw [List.append_assoc, List.rdropWhile_append_rtakeWhile, List.takeWhile_append_dropWhile]
  · exact fun c hc ↦ List.mem_takeWhile_imp hc
  · exact fun c hc ↦ List.mem_rtakeWhile_imp hc

theorem count_trimBoth {c : Char} (h : p c = false) : (trimBoth p cs).count c = cs.count c := by
  obtain ⟨before, after, hcs, hbefore, hafter⟩ := exists_eq_append_trimBoth p cs
  have hnone {part : List Char} (hpart : ∀ d ∈ part, p d = true) : part.count c = 0 := by
    refine List.count_eq_zero.mpr fun hc ↦ ?_
    rw [hpart c hc] at h
    cases h
  conv => rhs; rw [hcs]
  simp [hnone hbefore, hnone hafter]

theorem dropWhile_eq_self_iff :
    cs.dropWhile p = cs ↔ ∀ c, cs.head? = some c → p c = false := by
  cases cs with
  | nil => simp
  | cons c cs => simp [List.dropWhile_eq_self_iff]

theorem rdropWhile_eq_self_iff :
    cs.rdropWhile p = cs ↔ ∀ c, cs.getLast? = some c → p c = false := by
  rw [List.rdropWhile_eq_self_iff]
  constructor
  · intro h c hc
    have hne : cs ≠ [] := by
      rintro rfl
      cases hc
    rw [← List.getLast_of_getLast?_eq_some hc]
    exact Bool.eq_false_iff.mpr (h hne)
  · intro h hne
    simpa using h _ (List.getLast?_eq_some_getLast hne)

/-- Nothing is taken away exactly if no character of the class stands at either end. -/
theorem trimBoth_eq_self_iff :
    trimBoth p cs = cs ↔
      (∀ c, cs.head? = some c → p c = false) ∧ ∀ c, cs.getLast? = some c → p c = false := by
  rw [← dropWhile_eq_self_iff, ← rdropWhile_eq_self_iff]
  constructor
  · intro h
    have hfront : cs.dropWhile p = cs := by
      have hle := (List.rdropWhile_prefix p (cs.dropWhile p)).length_le
      rw [show (cs.dropWhile p).rdropWhile p = cs from h] at hle
      exact (List.dropWhile_suffix p).eq_of_length_le hle
    refine ⟨hfront, ?_⟩
    conv => lhs; rw [← hfront]
    exact h
  · rintro ⟨hfront, hback⟩
    show (cs.dropWhile p).rdropWhile p = cs
    rw [hfront, hback]

/-- Nothing is taken away exactly if the one character of the class stands at neither end. -/
theorem trimBoth_beq_eq_self_iff {c : Char} :
    trimBoth (· == c) cs = cs ↔ cs.head? ≠ some c ∧ cs.getLast? ≠ some c := by
  have hend (found : Option Char) :
      (∀ d, found = some d → (d == c) = false) ↔ found ≠ some c := by
    constructor
    · exact fun h hfound ↦ beq_eq_false_iff_ne.mp (h c hfound) rfl
    · exact fun h d hd ↦ beq_eq_false_iff_ne.mpr fun hdc ↦ h (hdc ▸ hd)
  rw [trimBoth_eq_self_iff, hend, hend]

/-- Where a text loses the character `c` at its ends before it is trimmed otherwise, the outcome is
the same exactly if there is none: all that are lost are missed. -/
theorem trimBoth_trimBoth_eq_iff {c : Char} (hc : p c = false) :
    trimBoth p (trimBoth (· == c) cs) = trimBoth p cs ↔
      cs.head? ≠ some c ∧ cs.getLast? ≠ some c := by
  rw [← trimBoth_beq_eq_self_iff]
  constructor
  · intro h
    have hcount : (trimBoth (· == c) cs).count c = cs.count c := by
      rw [← count_trimBoth hc, h, count_trimBoth hc]
    obtain ⟨before, after, hcs, hbefore, hafter⟩ := exists_eq_append_trimBoth (· == c) cs
    have hlength {part : List Char} (hpart : ∀ d ∈ part, (d == c) = true) :
        part.count c = part.length :=
      List.count_eq_length.mpr fun d hd ↦ (beq_iff_eq.mp (hpart d hd)).symm
    -- Each character that is lost at an end is one `c` less.
    rw [hcs, List.count_append, List.count_append, ← hcs, hlength hbefore, hlength hafter] at hcount
    obtain rfl : before = [] := List.length_eq_zero_iff.mp (by omega)
    obtain rfl : after = [] := List.length_eq_zero_iff.mp (by omega)
    simpa using hcs.symm
  · intro h
    rw [h]

end QueryLint.Text
