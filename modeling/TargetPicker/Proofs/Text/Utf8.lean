import Mathlib.Tactic.Common
import Mathlib.Tactic.IntervalCases
import TargetPicker.Text.Utf8

/-!
# Decoding what was encoded

`decode` never fails, so two things have to be said about it.

**On encoded text it is the inverse.**  The encoding of a character is one lead byte and up to
three continuation bytes.  The lead byte announces a range for the first of them
(`ofLead?_two`, `ofLead?_three`, `ofLead?_four`), and the range leaves out exactly what no scalar
value has: overlong forms, surrogates and values above `10FFFF`.  So every announced range holds
the byte that the encoder wrote, and `decode_utf8` follows character by character.

**It leaves ASCII bytes where they are.**  A sequence of several bytes has a value of at least
`0x80` (`le_value_of_ofLead?`), and a replacement character is no ASCII character either, so a
decoded text has one only where the bytes had it (`mem_of_mem_decode`,
`getLast?_of_getLast?_decode`).
Conversely no byte below `0x80` goes on with a sequence, however much of that is still missing, and
no first byte of an encoded character does, so the bytes on both sides of such a border are decoded
apart (`decode_append`, `decode_append_utf8`).
-/

namespace TargetPicker.Text

/-! ## One sequence -/

namespace Sequence

/-- A byte in the announced range is taken in. -/
lemma finish_cons {bits more x : ℕ} {low high : UInt8} (rest : Bytes) (hx : x < 64)
    (hlow : low.toNat ≤ x + 0x80) (hhigh : x + 0x80 ≤ high.toNat) :
    finish bits (more + 1) low high (UInt8.ofNat (x + 0x80) :: rest)
      = finish (bits * 64 + x) more 0x80 0xBF rest := by
  have hb : (UInt8.ofNat (x + 0x80)).toNat = x + 0x80 := by
    rw [UInt8.toNat_ofNat']
    omega
  rw [finish, if_pos, hb, Nat.add_sub_cancel]
  rw [UInt8.le_iff_toNat_le, UInt8.le_iff_toNat_le, hb]
  exact ⟨hlow, hhigh⟩

lemma finish_continuation {bits more x : ℕ} (rest : Bytes) (hx : x < 64) :
    finish bits (more + 1) 0x80 0xBF (UInt8.ofNat (x + 0x80) :: rest)
      = finish (bits * 64 + x) more 0x80 0xBF rest :=
  finish_cons rest hx (by simp) (by simp; omega)

lemma ofLead?_two {n : ℕ} (h2 : 2 ≤ n) (h32 : n < 32) :
    ofLead? (UInt8.ofNat (n + 0xC0)) = some ⟨n, 1, 0x80, 0xBF⟩ := by
  interval_cases n <;> rfl

/-- Three bytes: the range of the second leaves out overlong forms and surrogates. -/
lemma ofLead?_three {n x : ℕ} (hn : n < 16) (hx : x < 64) (hshort : n = 0 → 32 ≤ x)
    (hscalar : n = 13 → x < 32) :
    ∃ low high : UInt8, ofLead? (UInt8.ofNat (n + 0xE0)) = some ⟨n, 2, low, high⟩ ∧
      low.toNat ≤ x + 0x80 ∧ x + 0x80 ≤ high.toNat := by
  interval_cases n <;> refine ⟨_, _, rfl, ?_, ?_⟩ <;> simp at hshort hscalar ⊢ <;> omega

/-- Four bytes: the range of the second leaves out overlong forms and what is above `10FFFF`. -/
lemma ofLead?_four {n x : ℕ} (hn : n ≤ 4) (hx : x < 64) (hshort : n = 0 → 16 ≤ x)
    (hscalar : n = 4 → x < 16) :
    ∃ low high : UInt8, ofLead? (UInt8.ofNat (n + 0xF0)) = some ⟨n, 3, low, high⟩ ∧
      low.toNat ≤ x + 0x80 ∧ x + 0x80 ≤ high.toNat := by
  interval_cases n <;> refine ⟨_, _, rfl, ?_, ?_⟩ <;> simp at hshort hscalar ⊢ <;> omega

end Sequence

/-- A lead byte is read as the sequence that it announces. -/
lemma decodeOne_of_lead {b : UInt8} {s : Sequence} (h : Sequence.ofLead? b = some s)
    (rest : Bytes) :
    decodeOne b rest
      = ((Sequence.finish s.bits s.more s.low s.high rest).1.elim replacement Char.ofNat,
        (Sequence.finish s.bits s.more s.low s.high rest).2) := by
  have hb : ¬ b < 0x80 := by
    intro hb
    have hC2 : b < 0xC2 := by
      rw [UInt8.lt_iff_toNat_lt] at hb ⊢
      simp at hb ⊢; omega
    simp [Sequence.ofLead?, hC2] at h
  rw [decodeOne, if_neg hb, h]

/-! ## Encoded text -/

/-- **Reading one character back**, whatever follows it. -/
theorem decode_utf8EncodeChar_append (c : Char) (rest : Bytes) :
    decode (String.utf8EncodeChar c ++ rest) = c :: decode rest := by
  have hc : Char.ofNat c.val.toNat = c := Char.ofNat_toNat c
  have hv : c.val.toNat < 0xD800 ∨ 0xDFFF < c.val.toNat ∧ c.val.toNat < 0x110000 := c.valid
  unfold String.utf8EncodeChar
  generalize c.val.toNat = v at hc hv
  dsimp only
  split_ifs with h1 h2 h3
  · have hb : (UInt8.ofNat v).toNat = v := by
      rw [UInt8.toNat_ofNat']
      omega
    have hlt : UInt8.ofNat v < 0x80 := by
      rw [UInt8.lt_iff_toNat_lt, hb]
      simp; omega
    rw [List.singleton_append, decode_cons, decodeOne, if_pos hlt, hb, hc]
  · have hlead := Sequence.ofLead?_two (n := v / 64 % 32) (by omega) (by omega)
    simp only [List.cons_append, List.nil_append]
    rw [decode_cons, decodeOne_of_lead hlead, Sequence.finish_continuation _ (by omega),
      Sequence.finish, show v / 64 % 32 * 64 + v % 64 = v by omega]
    simp [hc]
  · obtain ⟨low, high, hlead, hlow, hhigh⟩ := Sequence.ofLead?_three (n := v / 4096 % 16)
      (x := v / 64 % 64) (by omega) (by omega) (by omega) (by omega)
    simp only [List.cons_append, List.nil_append]
    rw [decode_cons, decodeOne_of_lead hlead, Sequence.finish_cons _ (by omega) hlow hhigh,
      Sequence.finish_continuation _ (by omega), Sequence.finish,
      show (v / 4096 % 16 * 64 + v / 64 % 64) * 64 + v % 64 = v by omega]
    simp [hc]
  · obtain ⟨low, high, hlead, hlow, hhigh⟩ := Sequence.ofLead?_four (n := v / 262144 % 8)
      (x := v / 4096 % 64) (by omega) (by omega) (by omega) (by omega)
    simp only [List.cons_append, List.nil_append]
    rw [decode_cons, decodeOne_of_lead hlead, Sequence.finish_cons _ (by omega) hlow hhigh,
      Sequence.finish_continuation _ (by omega), Sequence.finish_continuation _ (by omega),
      Sequence.finish,
      show ((v / 262144 % 8 * 64 + v / 4096 % 64) * 64 + v / 64 % 64) * 64 + v % 64 = v by omega]
    simp [hc]

/-- **Decoding is the left inverse of encoding.** -/
theorem decode_utf8 (t : Text) : decode (utf8 t) = t := by
  induction t with
  | nil => simp [utf8]
  | cons c t ih =>
    rw [utf8, List.flatMap_cons, decode_utf8EncodeChar_append]
    exact congrArg _ ih

/-! ## ASCII bytes

A byte below `0x80` is written for one character only, and read as that character only.
-/

@[simp] lemma utf8_nil : utf8 [] = [] := rfl

@[simp] lemma utf8_append (s t : Text) : utf8 (s ++ t) = utf8 s ++ utf8 t := List.flatMap_append

lemma toNat_of_mem_utf8EncodeChar {b : UInt8} {c : Char} (hb : b.toNat < 0x80)
    (h : b ∈ String.utf8EncodeChar c) : c.toNat = b.toNat := by
  show c.val.toNat = b.toNat
  unfold String.utf8EncodeChar at h
  generalize c.val.toNat = v at h
  dsimp only at h
  split_ifs at h with h1 h2 h3 <;> simp only [List.mem_cons, List.not_mem_nil, or_false] at h
  · rw [h, UInt8.toNat_ofNat']
    omega
  · rcases h with rfl | rfl <;> rw [UInt8.toNat_ofNat'] at hb <;> omega
  · rcases h with rfl | rfl | rfl <;> rw [UInt8.toNat_ofNat'] at hb <;> omega
  · rcases h with rfl | rfl | rfl | rfl <;> rw [UInt8.toNat_ofNat'] at hb <;> omega

lemma mem_of_mem_utf8 {t : Text} {b : UInt8} (hb : b.toNat < 0x80) (h : b ∈ utf8 t) :
    Char.ofNat b.toNat ∈ t := by
  obtain ⟨c, hc, hbc⟩ := List.mem_flatMap.mp h
  rw [← toNat_of_mem_utf8EncodeChar hb hbc, Char.ofNat_toNat]
  exact hc

lemma getLast?_of_getLast?_utf8 {t : Text} {b : UInt8} (hb : b.toNat < 0x80)
    (h : (utf8 t).getLast? = some b) : t.getLast? = some (Char.ofNat b.toNat) := by
  rcases List.eq_nil_or_concat t with rfl | ⟨s, c, rfl⟩
  · simp at h
  · have hmem : b ∈ String.utf8EncodeChar c := by
      have hne : String.utf8EncodeChar c ≠ [] := String.utf8EncodeChar_ne_nil
      rw [List.concat_eq_append, utf8_append, List.getLast?_append] at h
      simp only [utf8, List.flatMap_singleton] at h
      rw [List.getLast?_eq_some_getLast hne, Option.some_or] at h
      rw [← Option.some.inj h]
      exact List.getLast_mem hne
    rw [← toNat_of_mem_utf8EncodeChar hb hmem, Char.ofNat_toNat]
    simp

namespace Sequence

/-- The value of a sequence is at least what its lead byte and the range of the second say. -/
lemma le_value_of_finish {bits more : ℕ} {low high : UInt8} {bs : Bytes} {value : ℕ}
    (h : (finish bits more low high bs).1 = some value) : bits * 64 ^ more ≤ value := by
  fun_induction finish bits more low high bs with
  | case1 bits =>
      cases h
      simp
  | case2 => cases h
  | case3 bits more low high b rest _ ih =>
      have hstep : bits * 64 ^ (more + 1) ≤ (bits * 64 + (b.toNat - 0x80)) * 64 ^ more := by
        rw [pow_succ, Nat.mul_comm (64 ^ more), ← Nat.mul_assoc]
        exact Nat.mul_le_mul_right _ (Nat.le_add_right _ _)
      exact hstep.trans (ih h)
  | case4 => cases h

/-- The smallest value of a sequence: its lead byte and the least byte that may follow. -/
lemma le_of_ofLead? {b : UInt8} {s : Sequence} (h : ofLead? b = some s) :
    ∃ k, s.more = k + 1 ∧ 0x80 ≤ (s.bits * 64 + (s.low.toNat - 0x80)) * 64 ^ k := by
  unfold ofLead? at h
  simp only [UInt8.lt_iff_toNat_lt] at h
  split_ifs at h with h1 h2 h3 h4 h5 h6 h7 h8 <;> rw [← Option.some.inj h]
  · exact ⟨0, rfl, by simp at h1 ⊢; omega⟩
  · exact ⟨1, rfl, by simp⟩
  · exact ⟨1, rfl, by simp⟩
  · have hE0 : b.toNat ≠ 0xE0 := fun h => h3 (UInt8.toNat_inj.mp (by rw [h]; rfl))
    exact ⟨1, rfl, by simp at h2 ⊢; omega⟩
  · exact ⟨2, rfl, by simp⟩
  · have hF0 : b.toNat ≠ 0xF0 := fun h => h6 (UInt8.toNat_inj.mp (by rw [h]; rfl))
    exact ⟨2, rfl, by simp at h5 ⊢; omega⟩
  · exact ⟨2, rfl, by simp⟩

/-- No value below `0x80` is written in more than one byte. -/
theorem le_value_of_ofLead? {b : UInt8} {s : Sequence} {rest : Bytes} {value : ℕ}
    (hs : ofLead? b = some s) (h : (finish s.bits s.more s.low s.high rest).1 = some value) :
    0x80 ≤ value := by
  obtain ⟨k, hk, hle⟩ := le_of_ofLead? hs
  rw [hk] at h
  cases rest with
  | nil => simp [finish] at h
  | cons d rest =>
      rw [finish] at h
      split at h
      · next hd =>
        have hlow : s.low.toNat ≤ d.toNat := UInt8.le_iff_toNat_le.mp hd.1
        have hmono : (s.bits * 64 + (s.low.toNat - 0x80)) * 64 ^ k
            ≤ (s.bits * 64 + (d.toNat - 0x80)) * 64 ^ k :=
          Nat.mul_le_mul_right _ (by omega)
        exact hle.trans (hmono.trans (le_value_of_finish h))
      · cases h

/-- What a sequence leaves is the end of what it was given. -/
lemma finish_suffix (bits more : ℕ) (low high : UInt8) (bs : Bytes) :
    (finish bits more low high bs).2 <:+ bs := by
  fun_induction finish bits more low high bs with
  | case1 => exact List.suffix_rfl
  | case2 => exact List.suffix_rfl
  | case3 _ _ _ _ b rest _ ih => exact ih.trans (List.suffix_cons b rest)
  | case4 => exact List.suffix_rfl

end Sequence

/-! ## What stands for an ASCII byte

A byte below `0x80` is a character by itself and belongs to no longer sequence, so decoded text has
its character only where the bytes have it.  Zero is left out: a number that is no scalar value
would give that character too.
-/

lemma decodeOne_suffix (b : UInt8) (rest : Bytes) : (decodeOne b rest).2 <:+ rest := by
  unfold decodeOne
  split
  · exact List.suffix_rfl
  · split
    · exact List.suffix_rfl
    · exact Sequence.finish_suffix ..

lemma length_decodeOne_lt (b : UInt8) (rest : Bytes) :
    (decodeOne b rest).2.length < (b :: rest).length :=
  Nat.lt_succ_of_le (decodeOne_suffix b rest).length_le

lemma eq_of_ofNat_eq_ascii {n k : ℕ} (hpos : 0 < k) (hk : k < 0x80)
    (h : Char.ofNat n = Char.ofNat k) : n = k := by
  have hvalue : (Char.ofNat n).toNat = k := by
    rw [h, Char.ofNat, dif_pos (show k.isValidChar from Or.inl (by omega))]
    rfl
  by_cases hvalid : n.isValidChar
  · rw [Char.ofNat, dif_pos hvalid] at hvalue
    exact hvalue
  · rw [Char.ofNat, dif_neg hvalid] at hvalue
    exact absurd hvalue hpos.ne

/-- Only an ASCII byte is read as its character. -/
lemma decodeOne_eq_ascii {b c : UInt8} {rest : Bytes} (hpos : 0 < c.toNat) (hc : c.toNat < 0x80)
    (h : (decodeOne b rest).1 = Char.ofNat c.toNat) : b = c := by
  unfold decodeOne at h
  split at h
  · exact UInt8.toNat_inj.mp (eq_of_ofNat_eq_ascii hpos hc h)
  · split at h
    · have hvalue : 0xFFFD = c.toNat := eq_of_ofNat_eq_ascii hpos hc h
      omega
    · next s hs =>
      dsimp only at h
      cases hv : (Sequence.finish s.bits s.more s.low s.high rest).1 with
      | none =>
          rw [hv] at h
          have hvalue : 0xFFFD = c.toNat := eq_of_ofNat_eq_ascii hpos hc h
          omega
      | some value =>
          have hle : 0x80 ≤ value := Sequence.le_value_of_ofLead? hs hv
          rw [hv] at h
          have hvalue : value = c.toNat := eq_of_ofNat_eq_ascii hpos hc h
          omega

/-- **Decoding makes no ASCII characters.** -/
theorem mem_of_mem_decode {c : UInt8} (hpos : 0 < c.toNat) (hc : c.toNat < 0x80) {bs : Bytes}
    (h : Char.ofNat c.toNat ∈ decode bs) : c ∈ bs := by
  induction hn : bs.length using Nat.strongRecOn generalizing bs with
  | ind n ih =>
      cases bs with
      | nil => simp at h
      | cons b rest =>
          rw [decode_cons, List.mem_cons] at h
          rcases h with h | h
          · rw [decodeOne_eq_ascii hpos hc h.symm]
            exact List.mem_cons_self
          · have hmem := ih _ (hn ▸ length_decodeOne_lt b rest) h rfl
            exact List.mem_cons_of_mem _ ((decodeOne_suffix b rest).subset hmem)

lemma lineFeed_mem_of_mem_decode (bs : Bytes) (h : '\n' ∈ decode bs) : 0x0A ∈ bs :=
  mem_of_mem_decode (c := 0x0A) (by decide) (by decide) h

/-- The last character is that of an ASCII byte only if this byte is the last one. -/
theorem getLast?_of_getLast?_decode {c : UInt8} (hpos : 0 < c.toNat) (hc : c.toNat < 0x80)
    {bs : Bytes} (h : (decode bs).getLast? = some (Char.ofNat c.toNat)) :
    bs.getLast? = some c := by
  induction hn : bs.length using Nat.strongRecOn generalizing bs with
  | ind n ih =>
      cases bs with
      | nil => simp at h
      | cons b rest =>
          rw [decode_cons] at h
          cases hrest : (decodeOne b rest).2 with
          | nil =>
              rw [hrest, decode_nil, List.getLast?_singleton] at h
              obtain rfl := decodeOne_eq_ascii hpos hc (Option.some.inj h)
              have hone : decodeOne b rest = (Char.ofNat b.toNat, rest) := by
                rw [decodeOne, if_pos (UInt8.lt_iff_toNat_lt.mpr hc)]
              rw [hone] at hrest
              rw [show rest = [] from hrest, List.getLast?_singleton]
          | cons d more =>
              have htail : (decode (decodeOne b rest).2).getLast? = some (Char.ofNat c.toNat) := by
                rw [hrest, decode_cons] at h ⊢
                rwa [List.getLast?_cons_cons] at h
              have hlast := ih _ (hn ▸ length_decodeOne_lt b rest) htail rfl
              obtain ⟨front, hfront⟩ := decodeOne_suffix b rest
              rw [← hfront, List.getLast?_cons, List.getLast?_append, hlast]
              rfl

/-! ## Where decoding may be cut

A sequence goes on with continuation bytes only, so what stands before any other byte is decoded as
if nothing followed it.  ASCII bytes are such, and so is the first byte of every encoded character.
-/

/-- The bytes that a sequence may go on with. -/
def IsContinuation (b : UInt8) : Prop := 0x80 ≤ b ∧ b ≤ 0xBF

/-- A sequence that is not complete ends before a byte that is no continuation. -/
lemma Sequence.finish_append {bits more : ℕ} {low high c : UInt8} (hc : ¬ IsContinuation c)
    (hlow : 0x80 ≤ low) (hhigh : high ≤ 0xBF) (bs rest : Bytes) :
    finish bits more low high (bs ++ c :: rest)
      = ((finish bits more low high bs).1, (finish bits more low high bs).2 ++ c :: rest) := by
  fun_induction finish bits more low high bs with
  | case1 => rw [finish]
  | case2 _ _ low high =>
      have hout : ¬ (low ≤ c ∧ c ≤ high) := by
        rintro ⟨hle, hge⟩
        exact hc ⟨UInt8.le_trans hlow hle, UInt8.le_trans hge hhigh⟩
      rw [List.nil_append, finish, if_neg hout]
  | case3 _ _ _ _ _ _ hb ih =>
      rw [List.cons_append, finish, if_pos hb, ih (UInt8.le_refl _) (UInt8.le_refl _)]
  | case4 _ _ _ _ _ _ hb => rw [List.cons_append, finish, if_neg hb]

lemma Sequence.range_of_ofLead? {b : UInt8} {s : Sequence} (h : ofLead? b = some s) :
    0x80 ≤ s.low ∧ s.high ≤ 0xBF := by
  unfold ofLead? at h
  split_ifs at h <;> rw [← Option.some.inj h] <;> dsimp only <;> decide

lemma decodeOne_append {c : UInt8} (hc : ¬ IsContinuation c) (b : UInt8) (bs rest : Bytes) :
    decodeOne b (bs ++ c :: rest)
      = ((decodeOne b bs).1, (decodeOne b bs).2 ++ c :: rest) := by
  unfold decodeOne
  split
  · rfl
  · split
    · rfl
    · next s hs =>
      obtain ⟨hlow, hhigh⟩ := Sequence.range_of_ofLead? hs
      rw [Sequence.finish_append hc hlow hhigh]

/-- **Decoding may be cut** before every byte that is no continuation. -/
theorem decode_append {c : UInt8} (hc : ¬ IsContinuation c) (bs rest : Bytes) :
    decode (bs ++ c :: rest) = decode bs ++ decode (c :: rest) := by
  induction hn : bs.length using Nat.strongRecOn generalizing bs with
  | ind n ih =>
      cases bs with
      | nil => rw [List.nil_append, decode_nil, List.nil_append]
      | cons b bs =>
          rw [List.cons_append, decode_cons, decodeOne_append hc,
            ih _ (hn ▸ length_decodeOne_lt b bs) _ rfl, decode_cons b bs, List.cons_append]

/-- An ASCII byte is decoded by itself. -/
theorem decode_append_ascii {c : UInt8} (hc : c < 0x80) (bs rest : Bytes) :
    decode (bs ++ c :: rest) = decode bs ++ Char.ofNat c.toNat :: decode rest := by
  have hcut : ¬ IsContinuation c := fun h => UInt8.not_le.mpr hc h.1
  rw [decode_append hcut, decode_cons, decodeOne, if_pos hc]

/-- An encoded character starts with a byte that is no continuation. -/
lemma exists_utf8EncodeChar_eq_cons (c : Char) :
    ∃ b more, String.utf8EncodeChar c = b :: more ∧ ¬ IsContinuation b := by
  have hv : c.val.toNat < 0x110000 := by
    rcases c.valid with h | ⟨-, h⟩
    · exact h.trans (by decide)
    · exact h
  unfold String.utf8EncodeChar
  generalize c.val.toNat = v at hv
  dsimp only
  split_ifs with h1 h2 h3
  all_goals
    refine ⟨_, _, rfl, fun hb => ?_⟩
    simp only [IsContinuation, UInt8.le_iff_toNat_le, UInt8.toNat_ofNat', UInt8.reduceToNat] at hb
    omega

/-- **Encoded text is decoded as it is**, whatever stands before it. -/
theorem decode_append_utf8 (bs : Bytes) (t : Text) : decode (bs ++ utf8 t) = decode bs ++ t := by
  cases t with
  | nil => simp
  | cons c t =>
      obtain ⟨b, more, hc, hb⟩ := exists_utf8EncodeChar_eq_cons c
      have hutf8 : utf8 (c :: t) = b :: (more ++ utf8 t) := by
        rw [utf8, List.flatMap_cons, hc]
        rfl
      rw [hutf8, decode_append hb, ← hutf8, decode_utf8]

end TargetPicker.Text
