/-
  Gatehouse — texts as bytes, and bytes as letters.

  A token is made of texts that are written as bytes and of bytes that are written as letters.
  Both can be undone.

  * `Jwt.fromUTF8_bytesOf`: the bytes of a text are those of no other text;
  * `Base64.decode_encode`: what was written as letters is read back, whatever its length;
  * `Base64.dot_not_mem`: the letters are never a dot, so that a dot ends them.
-/
import Gatehouse.Jwt.Signer
import Mathlib.Data.Char

namespace Gatehouse

/-! ## Texts as bytes -/

/-- The bytes from a place on, behind those that were taken before. -/
theorem toList_loop (b : ByteArray) (i : Nat) (acc : List UInt8) :
    ByteArray.toList.loop b i acc = acc.reverse ++ b.data.toList.drop i := by
  fun_induction ByteArray.toList.loop b i acc with
  | case1 i acc hi ih =>
    have hlen : i < b.data.toList.length := by simpa using hi
    have hget : b.get! i = b.data.toList[i] := by
      have : b.get! i = b.data[i]! := by cases b; rfl
      rw [this, getElem!_pos b.data i hi, Array.getElem_toList]
    rw [ih, List.drop_eq_getElem_cons hlen, hget]
    simp
  | case2 i acc hi =>
    rw [List.drop_eq_nil_of_le (by simpa using hi)]
    simp

theorem toList_eq_data (b : ByteArray) : b.toList = b.data.toList := by
  rw [ByteArray.toList, toList_loop]
  simp

theorem toList_toByteArray (bytes : List UInt8) : bytes.toByteArray.toList = bytes := by
  rw [toList_eq_data, List.toList_data_toByteArray]

namespace Jwt

theorem bytesOf_eq (cs : List Char) : bytesOf cs = cs.flatMap String.utf8EncodeChar := by
  exact toList_toByteArray _

@[simp]
theorem bytesOf_nil : bytesOf [] = [] := by simp [bytesOf_eq]

theorem bytesOf_append (cs ds : List Char) : bytesOf (cs ++ ds) = bytesOf cs ++ bytesOf ds := by
  simp [bytesOf_eq]

theorem bytesOf_cons (c : Char) (cs : List Char) :
    bytesOf (c :: cs) = String.utf8EncodeChar c ++ bytesOf cs := by
  simp [bytesOf_eq]

theorem toUTF8_toList (s : String) : s.toUTF8.toList = bytesOf s.toList := by
  rw [bytesOf, String.ofList_toList]

/-- The bytes of a text spell the text. -/
theorem fromUTF8_bytesOf (s : String) :
    String.fromUTF8? ⟨(bytesOf s.toList).toArray⟩ = some s := by
  have hs : (⟨(bytesOf s.toList).toArray⟩ : ByteArray) = s.toByteArray := by
    rw [← toUTF8_toList, toList_eq_data]
    rfl
  rw [hs, String.fromUTF8?, dif_pos s.isValidUTF8]
  rfl

theorem bytesOf_of_fromUTF8 {bytes : List UInt8} {s : String}
    (h : String.fromUTF8? ⟨bytes.toArray⟩ = some s) : bytes = bytesOf s.toList := by
  rw [String.fromUTF8?] at h
  split_ifs at h with hvalid
  cases h
  rw [← toUTF8_toList, toList_eq_data]
  rfl

end Jwt

/-- An ASCII character is one byte. -/
theorem utf8EncodeChar_ascii {c : Char} (h : c.toNat < 128) :
    String.utf8EncodeChar c = [Json.ascii c] := by
  have h' : c.val.toNat ≤ 127 := Nat.le_of_lt_succ h
  rw [String.utf8EncodeChar]
  simp only [h', if_true]
  rfl

theorem Jwt.bytesOf_ascii {cs : List Char} (h : ∀ c ∈ cs, c.toNat < 128) :
    bytesOf cs = cs.map Json.ascii := by
  induction cs with
  | nil => simp
  | cons c cs ih =>
    rw [bytesOf_cons, utf8EncodeChar_ascii (h c (by simp)), ih fun d hd => h d (by simp [hd])]
    rfl

theorem Jwt.bytesOf_cons_ascii {c : Char} (h : c.toNat < 128) (cs : List Char) :
    bytesOf (c :: cs) = Json.ascii c :: bytesOf cs := by
  rw [bytesOf_cons, utf8EncodeChar_ascii h, List.singleton_append]

/-! ## Bytes as letters -/

namespace Base64

variable (a : Alphabet)

/-- A letter is an ASCII character, and stands for the number it was chosen for. -/
theorem symbol_spec : ∀ n < 64, (a.symbol n).toNat < 128 ∧ a.symbol n ≠ '.' ∧
    Json.ascii (a.symbol n) ≠ paddingByte ∧ a.value? (Json.ascii (a.symbol n)) = some n := by
  cases a <;> decide

theorem value_symbol {n : Nat} (hn : n < 64) (offset : Nat) :
    value a (Json.ascii (a.symbol n)) offset = .ok n := by
  rw [value, (symbol_spec a n hn).2.2.2]

/-- All letters are those of numbers below 64. -/
theorem mem_encode {bytes : List UInt8} {c : Char} (hc : c ∈ encode a bytes) :
    ∃ n < 64, c = a.symbol n := by
  fun_induction encode a bytes with
  | case1 => cases hc
  | case2 x =>
    have hx := x.toNat_lt
    simp only [List.mem_cons, List.not_mem_nil, or_false] at hc
    rcases hc with rfl | rfl
    · exact ⟨_, by omega, rfl⟩
    · exact ⟨_, by omega, rfl⟩
  | case3 x y =>
    have hx := x.toNat_lt
    have hy := y.toNat_lt
    simp only [List.mem_cons, List.not_mem_nil, or_false] at hc
    rcases hc with rfl | rfl | rfl
    · exact ⟨_, by omega, rfl⟩
    · exact ⟨_, by omega, rfl⟩
    · exact ⟨_, by omega, rfl⟩
  | case4 x y z rest ih =>
    have hx := x.toNat_lt
    have hy := y.toNat_lt
    have hz := z.toNat_lt
    simp only [List.mem_cons] at hc
    rcases hc with rfl | rfl | rfl | rfl | hc
    · exact ⟨_, by omega, rfl⟩
    · exact ⟨_, by omega, rfl⟩
    · exact ⟨_, by omega, rfl⟩
    · exact ⟨_, by omega, rfl⟩
    · exact ih hc

theorem dot_not_mem (bytes : List UInt8) : '.' ∉ encode a bytes := by
  intro hc
  obtain ⟨n, hn, hdot⟩ := mem_encode a hc
  exact (symbol_spec a n hn).2.1 hdot.symm

theorem bytesOf_encode (bytes : List UInt8) :
    Jwt.bytesOf (encode a bytes) = (encode a bytes).map Json.ascii := by
  refine Jwt.bytesOf_ascii fun c hc => ?_
  obtain ⟨n, hn, rfl⟩ := mem_encode a hc
  exact (symbol_spec a n hn).1

/-- A letter in the last group. -/
theorem readLast_symbol {n : Nat} (hn : n < 64) (offset index : Nat) (g : LastGroup)
    (hg : g.padding = 0) (rest : List UInt8) :
    readLast a offset index g (Json.ascii (a.symbol n) :: rest) =
      readLast a offset (index + 1)
        { g with values := g.values ++ [n], lastByte := Json.ascii (a.symbol n) } rest := by
  rw [readLast, if_neg (symbol_spec a n hn).2.2.1, hg, if_neg (lt_irrefl 0), value_symbol a hn]
  rfl

theorem toUInt8_eq {n : Nat} {x : UInt8} (h : n = x.toNat) : n.toUInt8 = x := by
  rw [h]
  exact UInt8.ofNat_toNat

theorem encode_ne_nil {bytes : List UInt8} (h : bytes ≠ []) : encode a bytes ≠ [] := by
  fun_cases encode a bytes <;> simp_all

/-- The letters are read back, a group at a time. -/
theorem decodeFrom_encode (bytes : List UInt8) (offset : Nat) :
    decodeFrom a offset ((encode a bytes).map Json.ascii) = .ok bytes := by
  fun_induction encode a bytes generalizing offset with
  | case1 => rfl
  | case2 x =>
    have hx := x.toNat_lt
    show (readLast a offset 0 {} [_, _] >>= finishLast offset) = _
    rw [readLast_symbol a (by omega) _ _ _ rfl, readLast_symbol a (by omega) _ _ _ rfl]
    simp only [readLast, bind, Except.bind, List.nil_append, List.cons_append, finishLast,
      lt_irrefl, and_false, if_false]
    rw [if_pos (by omega), toUInt8_eq (x := x) (by omega)]
  | case3 x y =>
    have hx := x.toNat_lt
    have hy := y.toNat_lt
    show (readLast a offset 0 {} [_, _, _] >>= finishLast offset) = _
    rw [readLast_symbol a (by omega) _ _ _ rfl, readLast_symbol a (by omega) _ _ _ rfl,
      readLast_symbol a (by omega) _ _ _ rfl]
    simp only [readLast, bind, Except.bind, List.nil_append, List.cons_append, finishLast,
      lt_irrefl, and_false, if_false]
    rw [if_pos (by omega), toUInt8_eq (x := x) (by omega), toUInt8_eq (x := y) (by omega)]
  | case4 x y z rest ih =>
    have hx := x.toNat_lt
    have hy := y.toNat_lt
    have hz := z.toNat_lt
    cases hrest : (encode a rest).map Json.ascii with
    | nil =>
      obtain rfl : rest = [] := by
        by_contra hne
        exact encode_ne_nil a hne (List.map_eq_nil_iff.1 hrest)
      show (readLast a offset 0 {} [_, _, _, _] >>= finishLast offset) = _
      rw [readLast_symbol a (by omega) _ _ _ rfl, readLast_symbol a (by omega) _ _ _ rfl,
        readLast_symbol a (by omega) _ _ _ rfl, readLast_symbol a (by omega) _ _ _ rfl]
      simp only [readLast, bind, Except.bind, List.nil_append, List.cons_append, finishLast,
        lt_irrefl, and_false, if_false]
      rw [toUInt8_eq (x := x) (by omega), toUInt8_eq (x := y) (by omega),
        toUInt8_eq (x := z) (by omega)]
    | cons t ts =>
      simp only [List.map_cons, hrest, decodeFrom]
      rw [value_symbol a (by omega), value_symbol a (by omega), value_symbol a (by omega),
        value_symbol a (by omega), ← hrest, ih]
      simp only [bind, Except.bind, pure, Except.pure]
      rw [toUInt8_eq (x := x) (by omega), toUInt8_eq (x := y) (by omega),
        toUInt8_eq (x := z) (by omega)]

/-- **What was written as letters is read back.** -/
theorem decode_encode (bytes : List UInt8) :
    decode a (Jwt.bytesOf (encode a bytes)) = .ok bytes := by
  rw [bytesOf_encode, decode]
  split
  · rename_i b hb
    rw [if_neg, decodeFrom_encode]
    rintro ⟨-, -, hnone⟩
    obtain ⟨c, hc, rfl⟩ := List.mem_map.1 (List.mem_of_getLast? hb)
    obtain ⟨n, hn, rfl⟩ := mem_encode a hc
    rw [(symbol_spec a n hn).2.2.2] at hnone
    cases hnone
  · rename_i hnil
    have : encode a bytes = [] := List.map_eq_nil_iff.1 (List.getLast?_eq_none_iff.1 hnil)
    by_contra hne
    exact encode_ne_nil a (fun hb => hne (by rw [hb])) this

end Base64

end Gatehouse
