import PageListeners.Proofs.Text.Utf8
import PageListeners.Query

/-!
# Reading back query text

A written name or value holds neither of the two separators, so that the fields of a query and the
two sides of a field are found again, and each side is read back byte by byte. Two texts with an
ampersand between them read as their fields one after the other, whatever the texts are.
-/

namespace PageListeners.Query

open PageListeners.Text

def isVerbatim (c : Char) : Bool :=
  c.isAlphanum || c ∈ ['*', '-', '.', '_', '+', '=', '&']

def isUpperHex (c : Char) : Bool :=
  c.isDigit || 'A' ≤ c && c ≤ 'F'

/-- Texts of such characters and of escapes, which are a percent sign and two digits. -/
inductive IsWritten : List Char → Prop where
  | nil : IsWritten []
  | verbatim {c : Char} {cs : List Char} (hc : isVerbatim c = true) (hcs : IsWritten cs) :
    IsWritten (c :: cs)
  | escape {a b : Char} {cs : List Char} (ha : isUpperHex a = true) (hb : isUpperHex b = true)
    (hcs : IsWritten cs) : IsWritten ('%' :: a :: b :: cs)

theorem toNat_ofNat_toNat (b : UInt8) : (Char.ofNat b.toNat).toNat = b.toNat := by
  have hb := b.toNat_lt
  have hv : b.toNat.isValidChar := Or.inl (by omega)
  rw [Char.ofNat, dif_pos hv]
  rfl

/-- No mark with a meaning of its own is written as it is. -/
theorem ne_of_isPlain {b : UInt8} (hb : isPlain b = true) {c : Char}
    (hc : isPlain (UInt8.ofNat c.toNat) = false) : Char.ofNat b.toNat ≠ c := by
  rintro rfl
  rw [toNat_ofNat_toNat, UInt8.ofNat_toNat, hb] at hc
  cases hc

theorem toNat_lt_of_isPlain {b : UInt8} (hb : isPlain b = true) : b.toNat < 0x80 := by
  have hall : ∀ n < 256, isPlain (UInt8.ofNat n) = true → n < 0x80 := by decide +kernel
  apply hall b.toNat b.toNat_lt
  rwa [UInt8.ofNat_toNat]

theorem utf8EncodeChar_of_lt {b : UInt8} (hb : b.toNat < 0x80) :
    String.utf8EncodeChar (Char.ofNat b.toNat) = [b] := by
  have hv : (Char.ofNat b.toNat).val.toNat = b.toNat := toNat_ofNat_toNat b
  simp only [String.utf8EncodeChar, hv]
  rw [if_pos (by omega), UInt8.ofNat_toNat]

theorem upperHex_ne {n : Nat} (hn : n < 16) {c : Char} (hc : hexValue? c = none) :
    upperHex n ≠ c := by
  rintro rfl
  rw [hexValue?_upperHex hn] at hc
  cases hc

theorem bytesOf_encodeByte_append (b : UInt8) (cs : List Char) :
    bytesOf (encodeByte b ++ cs) = b :: bytesOf cs := by
  have hb := b.toNat_lt
  unfold encodeByte
  split
  · next hp =>
    have hplus := ne_of_isPlain hp (c := '+') rfl
    have hpercent := ne_of_isPlain hp (c := '%') rfl
    rw [List.cons_append, List.nil_append, bytesOf, utf8EncodeChar_of_lt (toNat_lt_of_isPlain hp)]
    · rfl
    · exact hplus
    · intro _ _ _ hc
      exact absurd hc hpercent
  · split
    · next hs => rw [List.cons_append, List.nil_append, bytesOf, hs]
    · simp only [List.cons_append, List.nil_append, bytesOf]
      rw [hexValue?_upperHex (by omega), hexValue?_upperHex (by omega)]
      simp only [Nat.div_add_mod', UInt8.ofNat_toNat]

theorem bytesOf_flatMap_encodeByte (bs : List UInt8) : bytesOf (bs.flatMap encodeByte) = bs := by
  induction bs with
  | nil => rfl
  | cons b bs ih => rw [List.flatMap_cons, bytesOf_encodeByte_append, ih]

theorem decodeText_encodeText (s : String) : decodeText (encodeText s) = s := by
  rw [decodeText, encodeText, bytesOf_flatMap_encodeByte, fromUtf8_utf8]

theorem not_mem_encodeByte {c : Char} (hp : isPlain (UInt8.ofNat c.toNat) = false)
    (hh : hexValue? c = none) (hplus : c ≠ '+') (hpercent : c ≠ '%') (b : UInt8) :
    c ∉ encodeByte b := by
  have hb := b.toNat_lt
  unfold encodeByte
  split
  · next hb => simpa using (ne_of_isPlain hb hp).symm
  · split
    · simpa using hplus
    · have hhigh := (upperHex_ne (n := b.toNat / 16) (by omega) hh).symm
      have hlow := (upperHex_ne (n := b.toNat % 16) (by omega) hh).symm
      simp [hpercent, hhigh, hlow]

theorem not_mem_encodeText {c : Char} (hp : isPlain (UInt8.ofNat c.toNat) = false)
    (hh : hexValue? c = none) (hplus : c ≠ '+') (hpercent : c ≠ '%') (s : String) :
    c ∉ encodeText s := by
  intro hc
  obtain ⟨b, -, hb⟩ := List.mem_flatMap.1 hc
  exact not_mem_encodeByte hp hh hplus hpercent b hb

theorem equals_not_mem_encodeText (s : String) : '=' ∉ encodeText s :=
  not_mem_encodeText rfl rfl (by decide) (by decide) s

theorem ampersand_not_mem_encodeText (s : String) : '&' ∉ encodeText s :=
  not_mem_encodeText rfl rfl (by decide) (by decide) s

theorem ampersand_not_mem_encodeField (pair : String × String) : '&' ∉ encodeField pair := by
  simp [encodeField, ampersand_not_mem_encodeText]

theorem encodeField_ne_nil (pair : String × String) : encodeField pair ≠ [] := by
  simp [encodeField]

theorem decodeField_encodeField (pair : String × String) :
    decodeField (encodeField pair) = pair := by
  have hname : ∀ c ∈ encodeText pair.1, decide (c ≠ '=') = true := by
    intro c hc
    rw [decide_eq_true_iff]
    rintro rfl
    exact equals_not_mem_encodeText pair.1 hc
  have htake : (encodeField pair).takeWhile (· ≠ '=') = encodeText pair.1 := by
    rw [encodeField, List.takeWhile_append_of_pos hname, List.takeWhile_cons_of_neg (by simp),
      List.append_nil]
  have hdrop : (encodeField pair).dropWhile (· ≠ '=') = '=' :: encodeText pair.2 := by
    rw [encodeField, List.dropWhile_append_of_pos hname, List.dropWhile_cons_of_neg (by simp)]
  rw [decodeField, htake, hdrop, List.tail_cons, decodeText_encodeText, decodeText_encodeText]

theorem decode_encode (pairs : List (String × String)) : decode (encode pairs) = pairs := by
  cases pairs with
  | nil => rfl
  | cons pair pairs =>
      have hsplit : (encode (pair :: pairs)).toList.splitOn '&' =
          (pair :: pairs).map encodeField := by
        rw [encode, String.toList_ofList]
        apply List.splitOn_intercalate
        · intro l hl
          obtain ⟨e, -, rfl⟩ := List.mem_map.1 hl
          exact ampersand_not_mem_encodeField e
        · simp
      have hfilter : ((pair :: pairs).map encodeField).filter (· ≠ []) =
          (pair :: pairs).map encodeField := by
        rw [List.filter_eq_self]
        intro l hl
        obtain ⟨e, -, rfl⟩ := List.mem_map.1 hl
        simp [encodeField_ne_nil]
      rw [decode, hsplit, hfilter, List.map_map]
      calc
        _ = (pair :: pairs).map id := List.map_congr_left fun e _ => decodeField_encodeField e
        _ = _ := List.map_id _

theorem isUpperHex_upperHex {n : Nat} (hn : n < 16) : isUpperHex (upperHex n) = true := by
  revert n
  decide

namespace IsWritten

variable {cs ds : List Char}

theorem append (hcs : IsWritten cs) (hds : IsWritten ds) : IsWritten (cs ++ ds) := by
  induction hcs with
  | nil => exact hds
  | verbatim hc _ ih => exact .verbatim hc ih
  | escape ha hb _ ih => exact .escape ha hb ih

theorem encodeByte (b : UInt8) : IsWritten (encodeByte b) := by
  have hb := b.toNat_lt
  unfold Query.encodeByte
  split
  · next hp =>
    refine .verbatim ?_ .nil
    simp only [isPlain, Bool.or_eq_true, beq_iff_eq] at hp
    simp only [isVerbatim, List.mem_cons, Bool.or_eq_true, decide_eq_true_iff]
    rcases hp with (((hp | hp) | hp) | hp) | hp <;> simp [hp]
  · split
    · exact .verbatim rfl .nil
    · exact .escape (isUpperHex_upperHex (by omega)) (isUpperHex_upperHex (by omega)) .nil

theorem encodeText (s : String) : IsWritten (encodeText s) := by
  rw [Query.encodeText]
  induction utf8 s with
  | nil => exact .nil
  | cons b bs ih => exact (encodeByte b).append ih

theorem encodeField (pair : String × String) : IsWritten (encodeField pair) :=
  (encodeText pair.1).append (.verbatim rfl (encodeText pair.2))

end IsWritten

theorem isWritten_encode (pairs : List (String × String)) : IsWritten (encode pairs).toList := by
  rw [encode, String.toList_ofList]
  induction pairs with
  | nil => exact .nil
  | cons pair pairs ih =>
      by_cases hnil : pairs = []
      · rw [hnil, List.map_singleton, List.intercalate_singleton]
        exact .encodeField pair
      · rw [List.map_cons, List.intercalate_cons_of_ne_nil (by simpa using hnil), List.append_assoc]
        exact (IsWritten.encodeField pair).append (.verbatim rfl ih)

theorem decode_append (s t : String) : decode (s ++ "&" ++ t) = decode s ++ decode t := by
  have hlist : (s ++ "&" ++ t).toList = s.toList ++ '&' :: t.toList := by
    rw [String.toList_append, String.toList_append, List.append_assoc]
    rfl
  rw [decode, hlist, List.splitOn_append_cons_self, List.filter_append, List.map_append]
  rfl

end PageListeners.Query
