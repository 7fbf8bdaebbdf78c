import Mathlib.Data.List.Basic
import RootFinding.NumberText

/-!
# The characters of a plain number

The plain text of a double is one of three words, or a nonempty text of digits, points and signs
(`isPlain_plain`). So it is never mistaken for an empty field, and it holds no line break.

The digits are those of a natural number without the zeros at its end. The layout puts zeros around
them, and there is at least one character, since a text without digits before the point has a zero
there.
-/

namespace RootFinding

namespace Decimal

theorem toList_pushn (c : Char) (n : Nat) : ("".pushn c n).toList = List.replicate n c := by
  induction n with
  | zero => rfl
  | succ n ih =>
    rw [String.pushn_eq_repeat_push] at ih ⊢
    rw [Nat.repeat, String.toList_push, ih, List.replicate_succ']

theorem isDigit_of_mem_toString {n : Nat} {c : Char} (h : c ∈ (toString n).toList) :
    c.isDigit = true := by
  rw [Nat.toString_eq_ofList_toDigits, String.toList_ofList] at h
  exact Nat.isDigit_of_mem_toDigits (by decide) (by decide) h

theorem mem_of_mem_dropZeros {digits : List Char} {c : Char} (h : c ∈ dropZeros digits) :
    c ∈ digits :=
  List.mem_reverse.1 ((List.dropWhile_sublist _).subset (List.mem_reverse.1 h))

theorem isDigit_of_mem_shortest {mantissa : Nat} {exponent : Int} {c : Char}
    (h : c ∈ (shortest mantissa exponent).digits.toList) : c.isDigit = true := by
  rw [shortest, String.toList_ofList] at h
  exact isDigit_of_mem_toString (mem_of_mem_dropZeros h)

/-- A text without an exponent is not empty, and holds nothing but digits and a point. -/
theorem Layout.plain_text {d : Digits} (digits : ∀ c ∈ d.digits.toList, c.isDigit = true) :
    (Layout.plain.text d) ≠ "" ∧
      ∀ c ∈ (Layout.plain.text d).toList, c.isDigit = true ∨ c = '.' := by
  have zeros {n : Nat} {c : Char} (h : c ∈ List.replicate n '0') : c.isDigit = true := by
    rw [List.eq_of_mem_replicate h]
    rfl
  show Layout.plain.positionalText d ≠ "" ∧ ∀ c ∈ (Layout.plain.positionalText d).toList, _
  rw [Ne, ← String.toList_eq_nil_iff, Layout.positionalText]
  split
  · -- the point comes first, behind a zero
    rw [String.toList_append, String.toList_append, toList_pushn]
    refine ⟨by simp, fun c hc => ?_⟩
    rcases List.mem_append.1 hc with hc | hc
    · rcases List.mem_append.1 hc with hc | hc
      · rcases List.mem_pair.1 hc with rfl | rfl
        · exact .inl rfl
        · exact .inr rfl
      · exact .inl (zeros hc)
    · exact .inl (digits c hc)
  · next positive =>
    dsimp only
    split
    · next count =>
      rw [String.toList_append, String.toList_append, toList_pushn]
      refine ⟨?_, fun c hc => ?_⟩
      · intro empty
        have none := congrArg List.length empty
        simp only [List.length_append, List.length_replicate, String.length_toList,
          List.length_nil] at none
        omega
      · rw [Layout.plain, String.toList_empty, List.append_nil] at hc
        rcases List.mem_append.1 hc with hc | hc
        · exact .inl (digits c hc)
        · exact .inl (zeros hc)
    · rw [String.toList_ofList]
      refine ⟨by simp, fun c hc => ?_⟩
      rcases List.mem_append.1 hc with hc | hc
      · exact .inl (digits c (List.mem_of_mem_take hc))
      · rcases List.mem_cons.1 hc with rfl | hc
        · exact .inr rfl
        · exact .inl (digits c (List.mem_of_mem_drop hc))

end Decimal

namespace NumberText

/-- The plain text of a double: a word, or digits, points and signs. -/
def IsPlain (s : String) : Prop :=
  s ∈ ["NaN", "inf", "-inf"] ∨
    s ≠ "" ∧ ∀ c ∈ s.toList, c.isDigit = true ∨ c = '.' ∨ c = '-'

theorem isPlain_laidOut (mantissa : Nat) (exponent : Int) :
    laidOut .plain mantissa exponent ≠ "" ∧
      ∀ c ∈ (laidOut .plain mantissa exponent).toList, c.isDigit = true ∨ c = '.' := by
  rw [laidOut]
  split
  · refine ⟨by decide, fun c hc => ?_⟩
    obtain rfl := List.mem_singleton.1 hc
    exact .inl rfl
  · exact Decimal.Layout.plain_text fun c => Decimal.isDigit_of_mem_shortest

theorem isPlain_plain (x : Float) : IsPlain (plain x) := by
  show IsPlain (ofBinary (laidOut .plain) (.ofFloat x))
  cases Decimal.Binary.ofFloat x with
  | nan => exact .inl (by decide)
  | infinite negative => cases negative <;> exact .inl (by decide)
  | finite negative mantissa exponent =>
    obtain ⟨nonempty, characters⟩ := isPlain_laidOut mantissa exponent
    refine .inr ?_
    cases negative with
    | false =>
      refine ⟨nonempty, fun c hc => ?_⟩
      rcases characters c hc with digit | point
      · exact .inl digit
      · exact .inr (.inl point)
    | true =>
      show "-" ++ laidOut .plain mantissa exponent ≠ "" ∧
        ∀ c ∈ ("-" ++ laidOut .plain mantissa exponent).toList, _
      rw [Ne, ← String.toList_eq_nil_iff, String.toList_append]
      refine ⟨by simp, fun c hc => ?_⟩
      rcases List.mem_append.1 hc with sign | hc
      · exact .inr (.inr (List.mem_singleton.1 sign))
      · rcases characters c hc with digit | point
        · exact .inl digit
        · exact .inr (.inl point)

/-- Such a text fills a field. -/
theorem IsPlain.ne_empty {s : String} (h : IsPlain s) : s ≠ "" := by
  rcases h with word | ⟨nonempty, -⟩
  · rintro rfl
    exact absurd word (by decide)
  · exact nonempty

/-- Such a text holds nothing but digits, points, signs and the letters of the words. -/
theorem IsPlain.not_mem {s : String} (h : IsPlain s) {c : Char} (digit : c.isDigit = false)
    (other : c ∉ ['.', '-', 'N', 'a', 'i', 'n', 'f']) : c ∉ s.toList := by
  simp only [List.mem_cons, List.not_mem_nil, or_false, not_or] at other
  obtain ⟨point, sign, capital, a, i, n, f⟩ := other
  rcases h with word | ⟨-, characters⟩
  · simp only [List.mem_cons, List.not_mem_nil, or_false] at word
    rcases word with rfl | rfl | rfl
    · simp [capital, a]
    · simp [i, n, f]
    · simp [sign, i, n, f]
  · intro mem
    rcases characters c mem with here | here | here
    · cases digit.symm.trans here
    · exact point here
    · exact sign here

end NumberText

end RootFinding
