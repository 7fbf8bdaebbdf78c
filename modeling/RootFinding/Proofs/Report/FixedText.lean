import RootFinding.Proofs.Double.Order
import RootFinding.Proofs.Report.PlainText

/-!
# Numbers with a fixed number of decimal places

The text of a double with a fixed number of decimal places is one of three words, or a text of
digits, points and signs, so it holds no line break (`lineBreak_not_mem_fixed`). The text of a
finite double has as many characters as there are decimal places, and more
(`places_le_length_fixed`): no digit is left out.
-/

namespace RootFinding

open Float.Model.UnpackedFloat

namespace Decimal

/-! ## Units and their point -/

/-- All decimal places are written, and nothing but digits and a point. -/
theorem placePoint_text (places count : Nat) :
    places ≤ (placePoint places count).length ∧
      ∀ c ∈ (placePoint places count).toList, c.isDigit = true ∨ c = '.' := by
  have digits : ∀ c ∈ List.replicate (places + 1 - (toString count).toList.length) '0' ++
      (toString count).toList, c.isDigit = true := by
    intro c hc
    rcases List.mem_append.1 hc with zero | digit
    · rw [List.eq_of_mem_replicate zero]
      rfl
    · exact isDigit_of_mem_toString digit
  have length : places ≤ (List.replicate (places + 1 - (toString count).toList.length) '0' ++
      (toString count).toList).length := by
    rw [List.length_append, List.length_replicate]
    omega
  rw [placePoint]
  generalize List.replicate (places + 1 - (toString count).toList.length) '0' ++
    (toString count).toList = padded at digits length
  split
  · next none =>
    rw [none, String.toList_ofList]
    exact ⟨Nat.zero_le _, fun c hc => .inl (digits c (List.mem_of_mem_take hc))⟩
  · rw [String.length_ofList, String.toList_ofList, List.length_append, List.length_cons,
      List.length_take, List.length_drop]
    refine ⟨by omega, fun c hc => ?_⟩
    rcases List.mem_append.1 hc with whole | rest
    · exact .inl (digits c (List.mem_of_mem_take whole))
    · rcases List.mem_cons.1 rest with point | digit
      · exact .inr point
      · exact .inl (digits c (List.mem_of_mem_drop digit))

/-! ## Finite doubles -/

/-- The exponent of a double stands between its sign and its mantissa. -/
theorem toNat_unpackExponent (b : BitVec Float.Model.Format.binary64.numBits) :
    (unpackExponent b).toNat = b.toNat / 2 ^ 52 % 2 ^ 11 := by
  rw [unpackExponent, BitVec.toNat_cast, BitVec.extractLsb_toNat, Nat.shiftRight_eq_div_pow]
  rfl

/-- A double that is finite is taken apart as a finite one. -/
theorem Binary.ofFloat_of_isFinite {x : Float} (h : x.isFinite = true) :
    ∃ negative mantissa exponent, ofFloat x = .finite negative mantissa exponent := by
  have finite : (unpack .binary64 x.toModel.toBits.toBitVec).isFinite = true := h
  have regular : x.toBits.toNat / leadingBit % Nat.pow 2 11 ≠ 2047 := by
    intro ones
    have exponent_eq : @unpackExponent .binary64 x.toModel.toBits.toBitVec = -1#11 :=
      BitVec.eq_of_toNat_eq ((toNat_unpackExponent _).trans ones)
    rw [unpack] at finite
    rw [if_pos exponent_eq] at finite
    split at finite
    · cases finite
    · cases finite
  rw [ofFloat, ofBits, if_neg regular]
  split
  · exact ⟨_, _, _, rfl⟩
  · exact ⟨_, _, _, rfl⟩

end Decimal

namespace NumberText

/-- No digit of a finite double is left out. -/
theorem places_le_length_fixed (places : Nat) {x : Float} (h : x.isFinite = true) :
    places ≤ (fixed places x).length := by
  obtain ⟨negative, mantissa, exponent, binary⟩ := Decimal.Binary.ofFloat_of_isFinite h
  have digits := (Decimal.placePoint_text places (Decimal.units places mantissa exponent)).1
  show places ≤ (ofBinary (Decimal.fixed places) (.ofFloat x)).length
  rw [binary, ofBinary]
  split
  · rw [String.length_append]
    exact Nat.le_add_left_of_le digits
  · exact digits

/-- The text of a double with a fixed number of decimal places is written in one line. -/
theorem lineBreak_not_mem_fixed (places : Nat) (x : Float) : '\n' ∉ (fixed places x).toList := by
  show '\n' ∉ (ofBinary (Decimal.fixed places) (.ofFloat x)).toList
  cases Decimal.Binary.ofFloat x with
  | nan => simp [ofBinary]
  | infinite negative => cases negative <;> simp [ofBinary]
  | finite negative mantissa exponent =>
    have free : '\n' ∉ (Decimal.fixed places mantissa exponent).toList := by
      intro mem
      rcases (Decimal.placePoint_text _ _).2 '\n' mem with digit | point
      · cases digit
      · cases point
    cases negative with
    | false => exact free
    | true =>
      show '\n' ∉ ("-" ++ Decimal.fixed places mantissa exponent).toList
      rw [String.toList_append, List.mem_append, not_or]
      exact ⟨by decide, free⟩

end NumberText

end RootFinding
