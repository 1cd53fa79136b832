import TargetPicker.Text.Basic

/-!
# Reading UTF-8 without ever failing

`decode` turns any bytes into a text.  Well-formed sequences become their characters; every
*maximal subpart* of an ill-formed sequence — the longest start of some well-formed sequence that
is found at that place, or one byte if there is none — becomes one replacement character.

A lead byte fixes how many bytes follow it and the range of the first of them
(`Sequence.ofLead?`); all later ones lie in `80..BF`.  The narrower first ranges are what excludes
overlong forms, surrogates and values above `10FFFF`.
-/

namespace TargetPicker.Text

/-- What replaces bytes that are no UTF-8. -/
def replacement : Char := Char.ofNat 0xFFFD

/-- The shape of a multi-byte sequence, as its lead byte announces it. -/
structure Sequence where
  /-- The bits of the character that the lead byte itself carries. -/
  bits : Nat
  /-- How many bytes follow. -/
  more : Nat
  /-- The least value of the first byte that follows. -/
  low : UInt8
  /-- The greatest value of the first byte that follows. -/
  high : UInt8

/-- The sequence that a byte starts; nothing for a byte that starts none. -/
def Sequence.ofLead? (b : UInt8) : Option Sequence :=
  if b < 0xC2 then none
  else if b < 0xE0 then some ⟨b.toNat - 0xC0, 1, 0x80, 0xBF⟩
  else if b = 0xE0 then some ⟨0, 2, 0xA0, 0xBF⟩
  else if b = 0xED then some ⟨0xD, 2, 0x80, 0x9F⟩
  else if b < 0xF0 then some ⟨b.toNat - 0xE0, 2, 0x80, 0xBF⟩
  else if b = 0xF0 then some ⟨0, 3, 0x90, 0xBF⟩
  else if b < 0xF4 then some ⟨b.toNat - 0xF0, 3, 0x80, 0xBF⟩
  else if b = 0xF4 then some ⟨4, 3, 0x80, 0x8F⟩
  else none

/-- Reads up to `more` bytes that may follow, the first of them between `low` and `high`.  Gives
the character's value if all were there, and the bytes not read. -/
def Sequence.finish : Nat → Nat → UInt8 → UInt8 → Bytes → Option Nat × Bytes
  | bits, 0, _, _, rest => (some bits, rest)
  | _, _ + 1, _, _, [] => (none, [])
  | bits, more + 1, low, high, b :: rest =>
    if low ≤ b ∧ b ≤ high then finish (bits * 64 + (b.toNat - 0x80)) more 0x80 0xBF rest
    else (none, b :: rest)

theorem Sequence.length_finish_le (bits more : Nat) (low high : UInt8) (bs : Bytes) :
    (finish bits more low high bs).2.length ≤ bs.length := by
  fun_induction finish bits more low high bs with
  | case1 => simp
  | case2 => simp
  | case3 _ _ _ _ _ _ _ ih => simp only [List.length_cons]; omega
  | case4 => simp

/-- The character at the start of `b :: rest`, and the bytes after it. -/
def decodeOne (b : UInt8) (rest : Bytes) : Char × Bytes :=
  if b < 0x80 then (Char.ofNat b.toNat, rest)
  else match Sequence.ofLead? b with
    | none => (replacement, rest)
    | some s =>
      let (value, rest) := Sequence.finish s.bits s.more s.low s.high rest
      (value.elim replacement Char.ofNat, rest)

theorem length_decodeOne_le (b : UInt8) (rest : Bytes) :
    (decodeOne b rest).2.length ≤ rest.length := by
  unfold decodeOne
  split
  · simp
  · split
    · simp
    · exact Sequence.length_finish_le ..

/-- `decodeOnto back bs` is `decode bs` after the characters of `back`, which stand in reverse. -/
def decodeOnto (back : Text) : Bytes → Text
  | [] => back.reverse
  | b :: rest => decodeOnto ((decodeOne b rest).1 :: back) (decodeOne b rest).2
termination_by bs => bs.length
decreasing_by exact Nat.lt_succ_of_le (length_decodeOne_le b rest)

/-- **Lossy decoding**: each maximal subpart of an ill-formed sequence becomes one replacement
character. -/
def decode (bs : Bytes) : Text := decodeOnto [] bs

theorem decodeOnto_eq (back : Text) (bs : Bytes) :
    decodeOnto back bs = back.reverse ++ decode bs := by
  induction h : bs.length using Nat.strongRecOn generalizing back bs with
  | ind n ih =>
    cases bs with
    | nil => simp [decode, decodeOnto]
    | cons b rest =>
      have hlt : (decodeOne b rest).2.length < n :=
        h ▸ Nat.lt_succ_of_le (length_decodeOne_le b rest)
      simp only [decode]
      rw [decodeOnto, ih _ hlt _ _ rfl, decodeOnto, ih _ hlt [_] _ rfl]
      simp

@[simp] theorem decode_nil : decode [] = [] := by simp [decode, decodeOnto]

theorem decode_cons (b : UInt8) (rest : Bytes) :
    decode (b :: rest) = (decodeOne b rest).1 :: decode (decodeOne b rest).2 := by
  rw [decode, decodeOnto, decodeOnto_eq]
  rfl

end TargetPicker.Text
