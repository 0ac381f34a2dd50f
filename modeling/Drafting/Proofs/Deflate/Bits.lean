import Drafting.Deflate.Bits
import Mathlib.Algebra.Group.Nat.Defs

/-!
# Bits of bytes

Every eight bits become a byte. Where the last bits are fewer they are filled up with zeros,
so a stream that is read back can be longer than what was written.

The main statements are that bytes are read from their bits again, and bits from their bytes,
with nothing but zeros behind them.
-/

namespace Drafting.Deflate

/-- The lower bits do not depend on the upper ones. -/
theorem bitsOfNumber_mod (count number : Nat) :
    bitsOfNumber count (number % 2 ^ count) = bitsOfNumber count number := by
  induction count generalizing number with
  | zero => rfl
  | succ count inductionHypothesis =>
    have half : number % (2 * 2 ^ count) / 2 = number / 2 % 2 ^ count :=
      Nat.mod_mul_right_div_self ..
    have parity : number % (2 * 2 ^ count) % 2 = number % 2 := Nat.mod_mul_right_mod ..
    rw [Nat.pow_succ', bitsOfNumber, half, parity, inductionHypothesis, bitsOfNumber]

/-- The bits of a number that is made a byte. -/
theorem bitsOfByte_ofNat (number : Nat) :
    bitsOfByte (UInt8.ofNat number) = bitsOfNumber 8 number := by
  rw [bitsOfByte, UInt8.toNat_ofNat']
  exact bitsOfNumber_mod 8 number

/-- Bits stand for a number whose bits they are, and its upper bits are zeros. -/
theorem bitsOfNumber_numberOfBits (bits : Bits) (more : Nat) :
    bitsOfNumber (bits.length + more) (numberOfBits bits) = bits ++ List.replicate more false := by
  induction bits with
  | nil =>
    rw [List.length_nil, Nat.zero_add, numberOfBits, List.nil_append]
    induction more with
    | zero => rfl
    | succ more inductionHypothesis =>
      rw [bitsOfNumber, Nat.zero_div, inductionHypothesis, List.replicate_succ]
      rfl
  | cons bit rest inductionHypothesis =>
    have own : ((bit.toNat + 2 * numberOfBits rest) % 2 == 1) = bit := by
      cases bit <;> simp
    have half : (bit.toNat + 2 * numberOfBits rest) / 2 = numberOfBits rest := by
      have bound := bit.toNat_le
      omega
    have length : (bit :: rest).length + more = rest.length + more + 1 := by
      rw [List.length_cons]
      omega
    rw [length, bitsOfNumber, numberOfBits, own, half, inductionHypothesis, List.cons_append]

/-- Bits that are made bytes are the bits of these bytes, of which the last is filled up with
zeros. -/
theorem bitsOfBytes_bytesOfBits (bits : Bits) :
    ∃ more < 8, bitsOfBytes (bytesOfBits bits) = bits ++ List.replicate more false := by
  have single (bits : Bits) (short : bits.length ≤ 8) :
      bitsOfByte (UInt8.ofNat (numberOfBits bits)) =
        bits ++ List.replicate (8 - bits.length) false := by
    have length : 8 = bits.length + (8 - bits.length) := by omega
    rw [bitsOfByte_ofNat, ← bitsOfNumber_numberOfBits, ← length]
  fun_induction bytesOfBits bits with
  | case1 b0 b1 b2 b3 b4 b5 b6 b7 rest inductionHypothesis =>
    obtain ⟨more, few, whole⟩ := inductionHypothesis
    refine ⟨more, few, ?_⟩
    have own : ∀ byte bytes, bitsOfBytes (byte :: bytes) = bitsOfByte byte ++ bitsOfBytes bytes :=
      fun _ _ => rfl
    rw [own, single _ (by simp), whole]
    rfl
  | case2 => exact ⟨0, by decide, rfl⟩
  | case3 bits noByte nonempty =>
    have short : bits.length ≤ 8 :=
      match bits, noByte with
      | [], _ | [_], _ | [_, _], _ | [_, _, _], _ | [_, _, _, _], _ | [_, _, _, _, _], _
      | [_, _, _, _, _, _], _ | [_, _, _, _, _, _, _], _ => by simp
      | _ :: _ :: _ :: _ :: _ :: _ :: _ :: _ :: _, noByte => (noByte _ _ _ _ _ _ _ _ _ rfl).elim
    have positive : 0 < bits.length := List.length_pos_iff.mpr nonempty
    refine ⟨8 - bits.length, by omega, ?_⟩
    rw [← single bits short]
    exact List.append_nil _

/-- Some bytes are the bytes of their bits. -/
theorem bytesOfBits_bitsOfBytes (bytes : List UInt8) : bytesOfBits (bitsOfBytes bytes) = bytes := by
  induction bytes with
  | nil => rfl
  | cons byte rest inductionHypothesis =>
    have own : UInt8.ofNat (numberOfBits (bitsOfByte byte)) = byte := by
      rw [bitsOfByte, numberOfBits_bitsOfNumber 8 byte.toNat byte.toNat_lt, UInt8.ofNat_toNat]
    have split : bytesOfBits (bitsOfByte byte ++ bitsOfBytes rest) =
        UInt8.ofNat (numberOfBits (bitsOfByte byte)) :: bytesOfBits (bitsOfBytes rest) := rfl
    rw [own, inductionHypothesis] at split
    exact split

/-- Some bytes have eight times as many bits. -/
theorem length_bitsOfBytes (bytes : List UInt8) :
    (bitsOfBytes bytes).length = 8 * bytes.length := by
  induction bytes with
  | nil => rfl
  | cons byte rest inductionHypothesis =>
    have own : bitsOfBytes (byte :: rest) = bitsOfByte byte ++ bitsOfBytes rest := rfl
    rw [own, List.length_append, bitsOfByte, bitsOfNumber_length, inductionHypothesis,
      List.length_cons]
    omega

end Drafting.Deflate
