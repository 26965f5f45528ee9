import EntityGen.Web.Body

/-! A body that starts with characters of ASCII is its own text. -/

namespace EntityGen.Web

theorem toList_loop_eq_data (b : ByteArray) (i : Nat) (bytes : List UInt8) :
    ByteArray.toList.loop b i bytes = bytes.reverse ++ b.data.toList.drop i := by
  fun_induction ByteArray.toList.loop b i bytes with
  | case1 i bytes h ih =>
    have hi : i < b.data.size := h
    have hget : b.get! i = b.data.toList.get ⟨i, hi⟩ := getElem!_pos b.data i hi
    rw [ih, List.drop_eq_getElem_cons hi, List.reverse_cons, List.append_assoc, hget]
    rfl
  | case2 i bytes h =>
    rw [List.drop_eq_nil_of_le (Nat.le_of_not_lt h), List.append_nil]

theorem toList_eq_data (b : ByteArray) : b.toList = b.data.toList := by
  rw [ByteArray.toList, toList_loop_eq_data]
  rfl

theorem bodyText?_eq {body : String} (hmark : byteOrderMark.isPrefixOf body.toUTF8.data.toList = false)
    (hstart : (body.toUTF8.data.toList.take 4).map (· == 0) = [false, false, false, false]) :
    bodyText? body.toUTF8.toList = some body := by
  have htext : String.fromUTF8? ⟨body.toUTF8.data.toList.toArray⟩ = some body := dif_pos body.isValidUTF8
  rw [toList_eq_data, bodyText?]
  split
  · exact htext
  · rw [if_neg (Bool.eq_false_iff.1 hmark), Encoding.ofStart?, hstart]
    exact htext

theorem data_toUTF8_cons {c : Char} (h : c.toNat ≤ 127) (cs : List Char) :
    (String.ofList (c :: cs)).toUTF8.data.toList =
      UInt8.ofNat c.toNat :: (String.ofList cs).toUTF8.data.toList := by
  have hc : String.utf8EncodeChar c = [UInt8.ofNat c.toNat] := if_pos h
  simp only [String.toUTF8_eq_toByteArray, String.toByteArray_ofList, List.utf8Encode, List.flatMap_cons, hc,
    List.data_toByteArray, List.singleton_append]

/-- A character of ASCII that is not nul. -/
def IsPlain (c : Char) : Prop := 0 < c.toNat ∧ c.toNat ≤ 127

theorem IsPlain.byte_ne_zero {c : Char} (h : IsPlain c) : (UInt8.ofNat c.toNat == 0) = false := by
  refine beq_eq_false_iff_ne.2 fun hzero => ?_
  have hn : c.toNat % 256 = 0 := congrArg UInt8.toNat hzero
  have := h.1
  have := h.2
  omega

theorem IsPlain.mark_ne_byte {c : Char} (h : IsPlain c) : (0xEF == UInt8.ofNat c.toNat) = false := by
  refine beq_eq_false_iff_ne.2 fun hmark => ?_
  have hn : 239 = c.toNat % 256 := congrArg UInt8.toNat hmark
  have := h.2
  omega

/-- The first four characters tell how a text is encoded, and these ones are plain. -/
inductive StartsPlain : List Char → Prop
  | intro {a b c d : Char} (cs : List Char) :
      (∀ x ∈ [a, b, c, d], IsPlain x) → StartsPlain (a :: b :: c :: d :: cs)

theorem bodyText?_ofList {cs : List Char} (h : StartsPlain cs) :
    bodyText? (String.ofList cs).toUTF8.toList = some (String.ofList cs) := by
  obtain @⟨a, b, c, d, cs, hstart⟩ := h
  simp only [List.forall_mem_cons] at hstart
  obtain ⟨ha, hb, hc, hd, -⟩ := hstart
  have hbytes := data_toUTF8_cons ha.2 (b :: c :: d :: cs)
  rw [data_toUTF8_cons hb.2, data_toUTF8_cons hc.2, data_toUTF8_cons hd.2] at hbytes
  refine bodyText?_eq ?_ ?_
  · rw [hbytes, byteOrderMark, List.isPrefixOf_cons_cons, ha.mark_ne_byte, Bool.false_and]
  · rw [hbytes]
    simp [ha.byte_ne_zero, hb.byte_ne_zero, hc.byte_ne_zero, hd.byte_ne_zero]

end EntityGen.Web
