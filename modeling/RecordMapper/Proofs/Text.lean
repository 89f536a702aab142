import Mathlib.Data.String.Basic
import RecordMapper.Text.Split

/-!
# Bytes and parts of texts

* `Text.utf8Size_eq_one`, `Text.utf8Len_of_oneByte`: texts whose characters have one byte each.
* `Text.mem_of_mem_split`: a character of a text is the separator or belongs to a part.
* `Text.split_replicate`, `Text.split_eq_singleton_nil`: texts of which nothing is left between the
  separators.
-/

namespace RecordMapper.Text

/-! ## Characters of one byte -/

theorem utf8Size_eq_one {c : Char} (h : c.toNat < 0x80) : c.utf8Size = 1 := by
  rw [Char.utf8Size_eq_one_iff]
  exact Nat.le_of_lt_succ h

theorem utf8Len_of_oneByte {text : List Char} (h : ∀ c ∈ text, c.toNat < 0x80) :
    String.utf8Len text = text.length := by
  induction text with
  | nil => rfl
  | cons c rest ih =>
    obtain ⟨hc, hrest⟩ := List.forall_mem_cons.mp h
    rw [String.utf8Len_cons, ih hrest, utf8Size_eq_one hc, List.length_cons]

/-! ## Parts -/

theorem split_separator (separator : Char) (rest : List Char) :
    split separator (separator :: rest) = [] :: split separator rest := by
  rw [split, if_pos rfl]

/-- A character that is no separator belongs to the first part. -/
theorem split_cons_of_ne {separator c : Char} (h : c ≠ separator) (rest : List Char) :
    ∃ part more, split separator rest = part :: more ∧
      split separator (c :: rest) = (c :: part) :: more := by
  have hlength := length_split separator rest
  rw [split, if_neg h]
  cases hsplit : split separator rest with
  | nil => simp [hsplit] at hlength
  | cons part more => exact ⟨part, more, rfl, rfl⟩

theorem mem_of_mem_split {separator c : Char} {text : List Char} (h : c ∈ text) :
    c = separator ∨ ∃ part ∈ split separator text, c ∈ part := by
  induction text with
  | nil => cases h
  | cons d rest ih =>
    by_cases hd : d = separator
    · subst hd
      rw [split_separator]
      rcases List.mem_cons.mp h with rfl | hrest
      · exact .inl rfl
      · refine (ih hrest).imp_right ?_
        rintro ⟨part, hpart, hc⟩
        exact ⟨part, List.mem_cons_of_mem _ hpart, hc⟩
    · obtain ⟨part, more, hbefore, hafter⟩ := split_cons_of_ne hd rest
      rw [hbefore] at ih
      rw [hafter]
      rcases List.mem_cons.mp h with rfl | hrest
      · exact .inr ⟨_, List.mem_cons_self, List.mem_cons_self⟩
      · refine (ih hrest).imp_right ?_
        rintro ⟨other, hother, hc⟩
        rcases List.mem_cons.mp hother with rfl | hmore
        · exact ⟨_, List.mem_cons_self, List.mem_cons_of_mem d hc⟩
        · exact ⟨other, List.mem_cons_of_mem _ hmore, hc⟩

theorem split_replicate (separator : Char) (n : Nat) :
    split separator (List.replicate n separator) = List.replicate (n + 1) [] := by
  induction n with
  | zero => rfl
  | succ n ih => rw [List.replicate_succ, split_separator, ih, ← List.replicate_succ]

/-- Only the empty text is its own empty part. -/
theorem split_eq_singleton_nil {separator : Char} {text : List Char} :
    split separator text = [[]] ↔ text = [] := by
  constructor
  · intro h
    cases text with
    | nil => rfl
    | cons c rest =>
      by_cases hc : c = separator
      · subst hc
        have hlength := length_split c rest
        rw [split_separator] at h
        rw [(List.cons.inj h).2] at hlength
        simp at hlength
      · obtain ⟨part, more, -, hafter⟩ := split_cons_of_ne hc rest
        rw [hafter] at h
        cases h
  · rintro rfl
    rfl

end RecordMapper.Text
