/-! # Byte strings

What travels over a connection and what files hold. -/

namespace TlsEcho

/-- A finite sequence of bytes. -/
abbrev Bytes := List UInt8

namespace Bytes

/-- The bytes of a text in UTF-8. -/
def ofString (s : String) : Bytes := s.toUTF8.toList

/-- A byte array is turned into a list from the front. -/
private theorem toList_loop (bytes : ByteArray) (i : Nat) (collected : List UInt8) :
    ByteArray.toList.loop bytes i collected =
      collected.reverse ++ bytes.data.toList.drop i := by
  fun_induction ByteArray.toList.loop bytes i collected with
  | case1 i collected hlt ih =>
    have hlength : i < bytes.data.toList.length := by simpa using hlt
    have hbyte : bytes.data.toList[i] = bytes.get! i := by simp [ByteArray.get!, hlt]
    rw [ih, List.drop_eq_getElem_cons hlength, hbyte, List.reverse_cons, List.append_assoc]
    rfl
  | case2 i collected hge =>
    have hend : bytes.data.toList.drop i = [] :=
      List.drop_eq_nil_of_le (by simpa using Nat.le_of_not_lt hge)
    rw [hend, List.append_nil]

/-- The bytes of a text are those of its characters. -/
theorem ofString_ofList (cs : List Char) :
    ofString (String.ofList cs) = cs.flatMap String.utf8EncodeChar := by
  show ByteArray.toList.loop (String.ofList cs).toByteArray 0 [] = _
  rw [toList_loop, String.toByteArray_ofList]
  simp [List.utf8Encode]

/-- Characters of one byte each are written as their numbers. -/
theorem ofString_ofList_of_ascii {cs : List Char} (h : ∀ c ∈ cs, c.utf8Size = 1) :
    ofString (String.ofList cs) = cs.map fun c => c.val.toUInt8 := by
  rw [ofString_ofList]
  induction cs with
  | nil => rfl
  | cons c rest ih =>
    have hc : String.utf8EncodeChar c = [c.val.toUInt8] :=
      String.utf8EncodeChar_eq_singleton (h c List.mem_cons_self)
    rw [List.flatMap_cons, hc, ih fun d hd => h d (List.mem_cons_of_mem c hd)]
    rfl

/-- Byte strings are compared by their first parts, if these are equally long, and then by what
    comes after them. -/
theorem compare_append {a b : Bytes} (hlength : a.length = b.length) (a' b' : Bytes) :
    compare (a ++ a') (b ++ b') = (compare a b).then (compare a' b') := by
  induction a generalizing b with
  | nil =>
    rw [List.eq_nil_of_length_eq_zero hlength.symm]
    rfl
  | cons x rest ih =>
    cases b with
    | nil => simp at hlength
    | cons y rest' =>
      rw [List.cons_append, List.cons_append, List.compare_cons_cons, List.compare_cons_cons,
        ih (Nat.succ.inj hlength), Ordering.then_assoc]

end Bytes

end TlsEcho
