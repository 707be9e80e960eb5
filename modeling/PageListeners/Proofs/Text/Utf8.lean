import PageListeners.Text.Utf8

/-!
# Reading back written UTF-8

The bytes that a character is written to are one piece, and reading that piece gives the
character, so that a text is recovered from its bytes.
-/

namespace PageListeners.Text

/-- A byte that may follow adds its low six bits to what was read. -/
theorem following_tail (owed bits : Nat) {n : Nat} {low high : UInt8}
    (hl : low.toNat ≤ n % 0x40 + 0x80) (hh : n % 0x40 + 0x80 ≤ high.toNat) (bytes : List UInt8) :
    following (owed + 1) low high bits (UInt8.ofNat (n % 0x40 + 0x80) :: bytes) =
      following owed 0x80 0xBF (bits * 64 + n % 64) bytes := by
  have hb : (UInt8.ofNat (n % 0x40 + 0x80)).toNat = n % 64 + 0x80 :=
    UInt8.toNat_ofNat_of_lt' (show _ < 256 by omega)
  rw [following, if_pos ⟨by rw [UInt8.le_iff_toNat_le, hb]; exact hl,
    by rw [UInt8.le_iff_toNat_le, hb]; exact hh⟩, hb, Nat.add_sub_cancel]

theorem following_plain_tail {owed bits n : Nat} (bytes : List UInt8) :
    following (owed + 1) 0x80 0xBF bits (UInt8.ofNat (n % 0x40 + 0x80) :: bytes) =
      following owed 0x80 0xBF (bits * 64 + n % 64) bytes :=
  following_tail owed bits (Nat.le_add_left ..) (show _ ≤ 0xBF by omega) bytes

theorem piece_of_following {b : UInt8} {bytes rest : List UInt8} {l : Lead} {n : Nat}
    (hb : 0x80 ≤ b.toNat) (hl : lead? b = some l)
    (hf : following l.following l.low l.high l.bits bytes = (some n, rest)) :
    piece b bytes = (some (Char.ofNat n), rest) := by
  have hnot : ¬ b < 0x80 := by
    rw [UInt8.lt_iff_toNat_lt]
    exact Nat.not_lt.2 hb
  simp only [piece, if_neg hnot, hl, hf, Option.map_some]

theorem lead?_two {n : Nat} (hl : 2 ≤ n) (hh : n < 0x20) :
    lead? (UInt8.ofNat (n + 0xC0)) = some { bits := n, following := 1 } := by
  have hb : (UInt8.ofNat (n + 0xC0)).toNat = n + 0xC0 :=
    UInt8.toNat_ofNat_of_lt' (show _ < 256 by omega)
  simp only [lead?, hb]
  rw [if_pos (by omega), Nat.add_sub_cancel]

/-- The bounds that the lead sets for the second byte are met by every code point that is not a
surrogate and needs three bytes. -/
theorem lead?_three {v : Nat} (hl : 0x7FF < v) (hh : v ≤ 0xFFFF)
    (hv : v < 0xD800 ∨ 0xDFFF < v) :
    ∃ low high : UInt8,
      lead? (UInt8.ofNat (v / 4096 % 0x10 + 0xE0)) = some ⟨v / 4096, 2, low, high⟩ ∧
        low.toNat ≤ v / 64 % 0x40 + 0x80 ∧ v / 64 % 0x40 + 0x80 ≤ high.toNat := by
  have hb : (UInt8.ofNat (v / 4096 % 0x10 + 0xE0)).toNat = v / 4096 + 0xE0 := by
    rw [UInt8.toNat_ofNat_of_lt' (show _ < 256 by omega)]
    omega
  simp only [lead?, hb]
  rw [if_neg (by omega)]
  by_cases h0 : v / 4096 = 0
  · refine ⟨0xA0, 0xBF, ?_, show 0xA0 ≤ _ by omega, show _ ≤ 0xBF by omega⟩
    rw [if_pos (by omega), h0]
  · rw [if_neg (by omega)]
    by_cases h1 : v / 4096 = 0xD
    · refine ⟨0x80, 0x9F, ?_, show 0x80 ≤ _ by omega, show _ ≤ 0x9F by omega⟩
      rw [if_pos (by omega), h1]
    · refine ⟨0x80, 0xBF, ?_, show 0x80 ≤ _ by omega, show _ ≤ 0xBF by omega⟩
      rw [if_neg (by omega), if_pos (by omega), Nat.add_sub_cancel]

theorem lead?_four {v : Nat} (hl : 0xFFFF < v) (hh : v < 0x110000) :
    ∃ low high : UInt8,
      lead? (UInt8.ofNat (v / 262144 % 0x08 + 0xF0)) = some ⟨v / 262144, 3, low, high⟩ ∧
        low.toNat ≤ v / 4096 % 0x40 + 0x80 ∧ v / 4096 % 0x40 + 0x80 ≤ high.toNat := by
  have hb : (UInt8.ofNat (v / 262144 % 0x08 + 0xF0)).toNat = v / 262144 + 0xF0 := by
    rw [UInt8.toNat_ofNat_of_lt' (show _ < 256 by omega)]
    omega
  simp only [lead?, hb]
  rw [if_neg (by omega), if_neg (by omega), if_neg (by omega), if_neg (by omega)]
  by_cases h0 : v / 262144 = 0
  · refine ⟨0x90, 0xBF, ?_, show 0x90 ≤ _ by omega, show _ ≤ 0xBF by omega⟩
    rw [if_pos (by omega), h0]
  · rw [if_neg (by omega)]
    by_cases h4 : v / 262144 = 4
    · refine ⟨0x80, 0x8F, ?_, show 0x80 ≤ _ by omega, show _ ≤ 0x8F by omega⟩
      rw [if_neg (by omega), if_pos (by omega), h4]
    · refine ⟨0x80, 0xBF, ?_, show 0x80 ≤ _ by omega, show _ ≤ 0xBF by omega⟩
      rw [if_pos (by omega), Nat.add_sub_cancel]

/-- The bytes of a character are exactly the first piece, whatever follows them. -/
theorem pieces_utf8EncodeChar_append (c : Char) (rest : List UInt8) :
    pieces (String.utf8EncodeChar c ++ rest) = some c :: pieces rest := by
  have hc : Char.ofNat c.val.toNat = c := Char.ofNat_toNat c
  have hv : c.val.toNat < 0xD800 ∨ 0xDFFF < c.val.toNat ∧ c.val.toNat < 0x110000 := c.valid
  generalize hn : c.val.toNat = v at hc hv
  simp only [String.utf8EncodeChar, hn]
  split
  · next h1 =>
    have hb : (UInt8.ofNat v).toNat = v := UInt8.toNat_ofNat_of_lt' (show _ < 256 by omega)
    have hlt : UInt8.ofNat v < 0x80 := by
      rw [UInt8.lt_iff_toNat_lt, hb]
      exact Nat.lt_succ_of_le h1
    rw [List.cons_append, List.nil_append, pieces, piece, if_pos hlt, hb, hc]
  · next h1 =>
    split
    · next h2 =>
      have hq : v / 64 % 0x20 = v / 64 := Nat.mod_eq_of_lt (by omega)
      rw [List.cons_append, List.cons_append, List.nil_append, pieces, hq,
        piece_of_following (by rw [UInt8.toNat_ofNat_of_lt' (show _ < 256 by omega)]; omega)
          (lead?_two (by omega) (by omega)) (following_plain_tail rest)]
      rw [show v / 64 * 64 + v % 64 = v by omega, hc]
    · next h2 =>
      split
      · next h3 =>
        obtain ⟨low, high, hlead, hlow, hhigh⟩ := lead?_three (v := v) (by omega) h3 (by omega)
        have hf := following_tail 1 (v / 4096) hlow hhigh
          (UInt8.ofNat (v % 0x40 + 0x80) :: rest)
        rw [following_plain_tail] at hf
        rw [List.cons_append, List.cons_append, List.cons_append, List.nil_append, pieces,
          piece_of_following (by rw [UInt8.toNat_ofNat_of_lt' (show _ < 256 by omega)]; omega)
            hlead hf]
        rw [show (v / 4096 * 64 + v / 64 % 64) * 64 + v % 64 = v by omega, hc]
      · next h3 =>
        obtain ⟨low, high, hlead, hlow, hhigh⟩ := lead?_four (v := v) (by omega) (by omega)
        have hf := following_tail 2 (v / 262144) hlow hhigh
          (UInt8.ofNat (v / 64 % 0x40 + 0x80) :: UInt8.ofNat (v % 0x40 + 0x80) :: rest)
        rw [following_plain_tail, following_plain_tail] at hf
        rw [List.cons_append, List.cons_append, List.cons_append, List.cons_append, List.nil_append,
          pieces,
          piece_of_following (by rw [UInt8.toNat_ofNat_of_lt' (show _ < 256 by omega)]; omega)
            hlead hf]
        rw [show ((v / 262144 * 64 + v / 4096 % 64) * 64 + v / 64 % 64) * 64 + v % 64 = v by omega,
          hc]

theorem pieces_flatMap_utf8EncodeChar (cs : List Char) :
    pieces (cs.flatMap String.utf8EncodeChar) = cs.map some := by
  induction cs with
  | nil => rw [List.flatMap_nil, pieces, List.map_nil]
  | cons c cs ih => rw [List.flatMap_cons, pieces_utf8EncodeChar_append, ih, List.map_cons]

theorem pieces_utf8 (s : String) : pieces (utf8 s) = s.toList.map some :=
  pieces_flatMap_utf8EncodeChar s.toList

theorem fromUtf8_utf8 (s : String) : fromUtf8 (utf8 s) = s := by
  simp [fromUtf8, pieces_utf8, Function.comp_def]

end PageListeners.Text
