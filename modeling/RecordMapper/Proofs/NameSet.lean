import Mathlib.Data.List.Basic
import RecordMapper.NameSet

/-!
# Names in the order of their bytes

* `Text.utf8`: the bytes of a text.
* `Text.utf8_lt_utf8`: texts that ascend by their code points ascend by their bytes.
* `NameSet.pairwise_utf8`: so do the names of a set.
-/

namespace RecordMapper

namespace Text

/-- The bytes of a text. -/
def utf8 (text : String) : List UInt8 := text.toUTF8.data.toList

theorem utf8_eq_flatMap (text : String) :
    utf8 text = text.toList.flatMap String.utf8EncodeChar := by
  have hbytes := String.toByteArray_ofList (l := text.toList)
  rw [String.ofList_toList] at hbytes
  rw [utf8, String.toUTF8_eq_toByteArray, hbytes]
  exact List.toList_data_toByteArray

/-- The bytes of a character ascend with it, whatever follows them. -/
theorem encodeChar_append_lt {c d : Char} (h : c < d) (more more' : List UInt8) :
    String.utf8EncodeChar c ++ more < String.utf8EncodeChar d ++ more' := by
  have hlt : c.val.toNat < d.val.toNat := h
  have hbound : d.val.toNat < 0x110000 := by
    rcases d.valid with hlow | hhigh <;> omega
  unfold String.utf8EncodeChar
  dsimp only
  -- the cases are the numbers of bytes; the first byte tells them apart, and where they are the
  -- same the bytes are the digits of the code points to the base 64
  split_ifs
  all_goals
    simp only [List.cons_append, List.nil_append, List.cons_lt_cons_iff, UInt8.lt_iff_toNat_lt,
      ← UInt8.toNat_inj, UInt8.toNat_ofNat']
    simp (disch := omega) only [Nat.mod_eq_of_lt]
    omega

theorem flatMap_encodeChar_lt {cs ds : List Char} (h : cs < ds) :
    cs.flatMap String.utf8EncodeChar < ds.flatMap String.utf8EncodeChar := by
  induction h with
  | @nil d ds =>
    have hne : (d :: ds).flatMap String.utf8EncodeChar ≠ [] := by
      rw [List.flatMap_cons]
      exact List.append_ne_nil_of_left_ne_nil String.utf8EncodeChar_ne_nil _
    obtain ⟨byte, bytes, hbytes⟩ := List.exists_cons_of_ne_nil hne
    rw [hbytes]
    exact List.nil_lt_cons byte bytes
  | rel h =>
    rw [List.flatMap_cons, List.flatMap_cons]
    exact encodeChar_append_lt h _ _
  | cons _ ih =>
    rw [List.flatMap_cons, List.flatMap_cons]
    exact List.append_left_lt ih

theorem utf8_lt_utf8 {text text' : String} (h : text < text') : utf8 text < utf8 text' := by
  rw [utf8_eq_flatMap, utf8_eq_flatMap]
  exact flatMap_encodeChar_lt h

end Text

theorem NameSet.pairwise_utf8 (set : NameSet) :
    set.names.Pairwise fun name name' => Text.utf8 name < Text.utf8 name' :=
  set.ascending.imp Text.utf8_lt_utf8

end RecordMapper
