import RecordMapper.Proofs.Json.Reading

/-!
# JSON has no control characters

* `Text.IsPrintable`: a text without the characters below the space.
* `Json.isPrintable_quote`: whatever a string holds, it is written as such a text.
* `Json.isPrintable_render`: so is every value.
-/

namespace RecordMapper

namespace Text

/-- No character is below the space. -/
def IsPrintable (text : List Char) : Prop := ∀ c ∈ text, 0x20 ≤ c.toNat

instance (text : List Char) : Decidable (IsPrintable text) :=
  List.decidableBAll (fun c : Char => 0x20 ≤ c.toNat) text

theorem isPrintable_nil : IsPrintable [] := nofun

theorem isPrintable_cons {c : Char} {text : List Char} :
    IsPrintable (c :: text) ↔ 0x20 ≤ c.toNat ∧ IsPrintable text :=
  List.forall_mem_cons

theorem isPrintable_append {text text' : List Char} :
    IsPrintable (text ++ text') ↔ IsPrintable text ∧ IsPrintable text' :=
  List.forall_mem_append

theorem isPrintable_hexDigit (n : Nat) : 0x20 ≤ (hexDigit n).toNat := by
  have h : ∀ d : Fin 16, 0x20 ≤ (Nat.digitChar d.val).toNat := by decide
  exact h ⟨n % 16, Nat.mod_lt n (by decide)⟩

theorem isPrintable_of_isDigit {c : Char} (h : c.isDigit) : 0x20 ≤ c.toNat := by
  have hzero : '0'.toNat ≤ c.toNat := by
    rw [Char.isDigit, Bool.and_eq_true, decide_eq_true_eq] at h
    exact h.1
  exact Nat.le_trans (by decide) hzero

end Text

open Text

namespace Json

/-! ## Parts -/

theorem isPrintable_escape (c : Char) : IsPrintable (escape c) := by
  unfold escape
  split
  -- the last two cases are the other control characters and the characters that stand as they are
  iterate 7 · decide
  split
  · simp only [isPrintable_cons, isPrintable_hexDigit, isPrintable_nil]
    decide
  · next h => exact isPrintable_cons.mpr ⟨Nat.le_of_not_lt h, isPrintable_nil⟩

/-- Whatever a string holds, it is written without control characters. -/
theorem isPrintable_quote (content : Option String) : IsPrintable (quote content).toList := by
  cases content with
  | none => decide
  | some content =>
    rw [quote, String.toList_ofList, List.cons_append, isPrintable_cons, isPrintable_append]
    refine ⟨by decide, fun c hc => ?_, by decide⟩
    obtain ⟨d, -, hd⟩ := List.mem_flatMap.mp hc
    exact isPrintable_escape d c hd

theorem isPrintable_number (number : Number) : IsPrintable number.render.toList := by
  intro c hc
  rw [Number.render, String.toList_append, String.toList_append, List.mem_append,
    List.mem_append] at hc
  obtain (hsign | hdigits) | hpower := hc
  · cases hnegative : number.negative with
    | true =>
      rw [hnegative] at hsign
      rw [List.mem_singleton.mp hsign]
      decide
    | false =>
      rw [hnegative] at hsign
      cases hsign
  · exact isPrintable_of_isDigit (Decimal.isDigit_of_mem_ofNat hdigits)
  · cases hplain : number.isPlain with
    | true =>
      rw [hplain] at hpower
      cases hpower
    | false =>
      rw [hplain, if_neg Bool.false_ne_true, String.toList_append, List.mem_append] at hpower
      obtain hletter | hscale := hpower
      · rw [List.mem_singleton.mp hletter]
        decide
      · obtain rfl | hdigit := Decimal.mem_ofInt hscale
        · decide
        · exact isPrintable_of_isDigit hdigit

theorem isPrintable_intercalate {parts : List String}
    (h : ∀ part ∈ parts, IsPrintable part.toList) :
    IsPrintable (",".intercalate parts).toList := by
  match parts with
  | [] => exact isPrintable_nil
  | [part] => simpa using h
  | part :: next :: rest =>
    obtain ⟨hpart, hrest⟩ := List.forall_mem_cons.mp h
    rw [toList_intercalate_cons_cons, isPrintable_append, isPrintable_cons]
    exact ⟨hpart, by decide, isPrintable_intercalate hrest⟩

/-! ## Values -/

mutual

/-- A value is written without control characters. -/
theorem isPrintable_render : (value : Json) → IsPrintable value.render.toList
  | .null => by decide
  | .bool true => by decide
  | .bool false => by decide
  | .number value => by
    rw [render]
    exact isPrintable_number value
  | .text content => by
    rw [render]
    exact isPrintable_quote content
  | .array items => by
    rw [toList_render_array, isPrintable_cons, isPrintable_append]
    exact ⟨by decide, isPrintable_intercalate (isPrintable_renderItems items), by decide⟩
  | .object members => by
    rw [toList_render_object, isPrintable_cons, isPrintable_append]
    exact ⟨by decide, isPrintable_intercalate (isPrintable_renderMembers members), by decide⟩

theorem isPrintable_renderItems : (items : List Json) → ∀ part ∈ renderItems items,
    IsPrintable part.toList
  | [] => by
    rw [renderItems]
    nofun
  | item :: rest => by
    rw [renderItems]
    exact List.forall_mem_cons.mpr ⟨isPrintable_render item, isPrintable_renderItems rest⟩

theorem isPrintable_renderMembers : (members : List (Option String × Json)) →
    ∀ part ∈ renderMembers members, IsPrintable part.toList
  | [] => by
    rw [renderMembers]
    nofun
  | member :: rest => by
    rw [renderMembers]
    exact List.forall_mem_cons.mpr
      ⟨isPrintable_renderMember member, isPrintable_renderMembers rest⟩

theorem isPrintable_renderMember : (member : Option String × Json) →
    IsPrintable (renderMember member).toList
  | (key, value) => by
    rw [toList_renderMember, isPrintable_append, isPrintable_cons]
    exact ⟨isPrintable_quote key, by decide, isPrintable_render value⟩

end

end Json

end RecordMapper
