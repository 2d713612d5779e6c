import RequestSql.Proofs.Filter.Lexeme
import RequestSql.Proofs.Number.Digits

/-!
# Numerals read back

A number that is written as a plain decimal numeral is the number that the numeral is read
to. Reading rounds, but what it rounds is a ratio, and a ratio does not change when both of
its parts are multiplied; so a numeral may be scaled at will, be it by the zeros that are put
to its digits or dropped from them, or by the place of its point.

Of the numerals that are tried for a number each one is kept only if it reads back. That one
of them does is settled by the last: it says the number exactly, as a multiple of `2 ^ -1074`,
and rounding leaves alone what is such a multiple already.

Key definition: `Decimal.LaidOut`.
Key theorems: `Binary64.magnitudeOfRatio_congr`, `Binary64.magnitudeOfRatio_units`,
`Binary64.magnitude_shortest`, `Decimal.exists_laidOut`, `exists_plainNumeral`.
-/

namespace RequestSql

namespace Binary64

/-! ### Ratios -/

theorem roundQuotient_mul_mul (n d : Nat) {k : Nat} (hk : 0 < k) :
    roundQuotient (n * k) (d * k) = roundQuotient n d := by
  have htwice : 2 * (n % d * k) = 2 * (n % d) * k := (Nat.mul_assoc ..).symm
  simp only [roundQuotient]
  rw [Nat.mul_div_mul_right n d hk, Nat.mul_mod_mul_right k n d, htwice]
  simp only [Nat.mul_lt_mul_right hk]

/-- A quotient without a remainder is not rounded. -/
theorem roundQuotient_mul_self (n : Nat) {d : Nat} (hd : 0 < d) :
    roundQuotient (n * d) d = n := by
  simp only [roundQuotient]
  rw [Nat.mul_mod_left, Nat.mul_zero, if_pos hd, Nat.mul_div_cancel n hd]

/-- The nearest number depends on the ratio only. -/
theorem magnitudeOfRatio_mul_mul (n d : Nat) {k : Nat} (hk : 0 < k) :
    magnitudeOfRatio (n * k) (d * k) = magnitudeOfRatio n d := by
  simp only [magnitudeOfRatio]
  generalize Nat.pow 2 1074 = step
  have hscaled : n * k * step = n * step * k := Nat.mul_right_comm n k step
  rw [hscaled, Nat.mul_div_mul_right (n * step) d hk]
  generalize Nat.pow 2 ((n * step / d).log2 - 52) = scale
  rw [Nat.mul_right_comm d k scale, roundQuotient_mul_mul (n * step) (d * scale) hk]

theorem magnitudeOfRatio_congr {n d n' d' : Nat} (hd : 0 < d) (hd' : 0 < d')
    (h : n * d' = n' * d) : magnitudeOfRatio n d = magnitudeOfRatio n' d' := by
  calc magnitudeOfRatio n d
      = magnitudeOfRatio (n * d') (d * d') := (magnitudeOfRatio_mul_mul n d hd').symm
    _ = magnitudeOfRatio (n' * d) (d' * d) := by rw [h, Nat.mul_comm d d']
    _ = magnitudeOfRatio n' d' := magnitudeOfRatio_mul_mul n' d' hd

theorem magnitudeOfRatio_zero (d : Nat) : magnitudeOfRatio 0 d = 0 := by
  have hround : ∀ k, roundQuotient 0 k = 0 := fun k => by
    simp only [roundQuotient]
    rw [Nat.zero_div, Nat.zero_mod, Nat.mul_zero]
    split
    · rfl
    · split
      · next hk hk' => exact absurd hk' (Nat.not_lt_zero k)
      · rfl
  simp only [magnitudeOfRatio]
  generalize Nat.pow 2 1074 = step
  rw [Nat.zero_mul, Nat.zero_div, hround, Nat.log2_zero, Nat.zero_sub, Nat.zero_mul]
  rfl

/-! ### Multiples of the smallest number -/

theorem log2_mul_pow {n : Nat} (hlow : 2 ^ 52 ≤ n) (hhigh : n < 2 ^ 53) (k : Nat) :
    (n * 2 ^ k).log2 = 52 + k := by
  have hpow : 0 < 2 ^ k := Nat.two_pow_pos k
  have hle : 2 ^ (52 + k) ≤ n * 2 ^ k := by
    rw [Nat.pow_add]
    exact Nat.mul_le_mul_right _ hlow
  have hlt : n * 2 ^ k < 2 ^ (52 + k + 1) := by
    rw [Nat.add_right_comm, Nat.pow_add]
    exact Nat.mul_lt_mul_of_pos_right hhigh hpow
  exact (Nat.log2_eq_iff (Nat.ne_of_gt (Nat.lt_of_lt_of_le (Nat.two_pow_pos _) hle))).2 ⟨hle, hlt⟩

/-- A natural is cut to 53 bits by rounding; where the others are zeros nothing is lost. -/
theorem round_unitsOfMagnitude (m : Nat) :
    ((unitsOfMagnitude m).log2 - 52) * 2 ^ 52 +
      roundQuotient (unitsOfMagnitude m) (2 ^ ((unitsOfMagnitude m).log2 - 52)) = m := by
  unfold unitsOfMagnitude
  split
  · next hsmall =>
    have hsmall : m < 2 ^ 52 := hsmall
    have hlog : m.log2 - 52 = 0 := by
      by_cases hm : m = 0
      · rw [hm]
        decide
      · have : m.log2 < 52 := (Nat.log2_lt hm).2 hsmall
        omega
    have hone := roundQuotient_mul_self m Nat.one_pos
    rw [Nat.mul_one] at hone
    rw [hlog, Nat.zero_mul, Nat.zero_add, Nat.pow_zero, hone]
  · next hlarge =>
    have hlarge : 2 ^ 52 ≤ m := Nat.le_of_not_lt hlarge
    have hsplit : 2 ^ 52 * (m / 2 ^ 52) + m % 2 ^ 52 = m := Nat.div_add_mod m (2 ^ 52)
    have hfraction : m % 2 ^ 52 < 2 ^ 52 := Nat.mod_lt _ (Nat.two_pow_pos 52)
    have hexponent : 1 ≤ m / 2 ^ 52 := Nat.div_pos hlarge (Nat.two_pow_pos 52)
    simp only [Nat.pow_eq]
    rw [log2_mul_pow (by omega) (by omega), Nat.add_sub_cancel_left,
      roundQuotient_mul_self _ (Nat.two_pow_pos _)]
    omega

/-- A finite number is nearest to what it is. -/
theorem magnitudeOfRatio_units {m : Nat} (h : m < infiniteMagnitude) :
    magnitudeOfRatio (unitsOfMagnitude m) (Nat.pow 2 1074) = m := by
  have hstep : ∀ k, 0 < Nat.pow 2 k := Nat.two_pow_pos
  replace hstep := hstep 1074
  simp only [magnitudeOfRatio]
  generalize Nat.pow 2 1074 = step at hstep
  have hround : ∀ u s : Nat, roundQuotient (u * step) (step * s) = roundQuotient u s := by
    intro u s
    rw [Nat.mul_comm step s, roundQuotient_mul_mul u s hstep]
  rw [Nat.mul_div_cancel _ hstep, hround]
  have hexact := round_unitsOfMagnitude m
  exact (congrArg (min infiniteMagnitude) hexact).trans (Nat.min_eq_right (Nat.le_of_lt h))

end Binary64

/-! ### Decimal numerals -/

namespace Decimal

open Binary64 (magnitudeOfRatio magnitudeOfRatio_congr)

/-- A numeral may be read with its point anywhere behind where it is written. -/
theorem magnitude_eq {d : Decimal} {places zeros : Nat} (h : d.exponent + places = zeros) :
    d.magnitude = magnitudeOfRatio (d.digits * 10 ^ zeros) (10 ^ places) := by
  have hten : ∀ k, 0 < 10 ^ k := fun k => Nat.pow_pos (by decide)
  unfold magnitude ratio
  split
  · next hexponent =>
    refine magnitudeOfRatio_congr Nat.one_pos (hten places) ?_
    have hzeros : zeros = d.exponent.toNat + places := by omega
    show d.digits * 10 ^ d.exponent.toNat * 10 ^ places = d.digits * 10 ^ zeros * 1
    rw [hzeros, Nat.pow_add, Nat.mul_one, Nat.mul_assoc]
  · next hexponent =>
    refine magnitudeOfRatio_congr (hten _) (hten places) ?_
    have hplaces : places = zeros + (-d.exponent).toNat := by omega
    show d.digits * 10 ^ places = d.digits * 10 ^ zeros * 10 ^ (-d.exponent).toNat
    rw [hplaces, Nat.pow_add, Nat.mul_assoc]

/-- A zero at the end of the digits is dropped together with its place. -/
theorem magnitude_dropZeros (fuel : Nat) (d : Decimal) :
    (d.dropZeros fuel).magnitude = d.magnitude := by
  induction fuel generalizing d with
  | zero => rfl
  | succ fuel ih =>
    rw [dropZeros]
    split
    · next hzero =>
      have hdigits : d.digits / 10 * 10 = d.digits := by omega
      have hplaces : d.exponent + (d.exponent.natAbs : Nat) =
          ((d.exponent + d.exponent.natAbs).toNat : Nat) := by omega
      have hshifted : d.exponent + 1 + (d.exponent.natAbs : Nat) =
          ((d.exponent + d.exponent.natAbs).toNat + 1 : Nat) := by omega
      rw [ih, magnitude_eq hplaces, magnitude_eq (d := ⟨d.digits / 10, d.exponent + 1⟩) hshifted,
        Nat.pow_succ', ← Nat.mul_assoc, hdigits]
    · rfl

end Decimal

namespace Binary64

/-- A power of two in the denominator makes places: each of them takes a five. -/
theorem magnitude_mul_five (n k : Nat) :
    Decimal.magnitude ⟨n * Nat.pow 5 k, -k⟩ = magnitudeOfRatio n (Nat.pow 2 k) := by
  have hplaces : (-k : Int) + (k : Nat) = (0 : Nat) := Int.add_left_neg _
  have htwo : 0 < Nat.pow 2 k := Nat.two_pow_pos k
  have hten : 10 ^ k = Nat.pow 2 k * Nat.pow 5 k := Nat.mul_pow 2 5 k
  rw [Decimal.magnitude_eq (d := ⟨n * Nat.pow 5 k, -k⟩) hplaces]
  refine magnitudeOfRatio_congr (Nat.pow_pos (by decide)) htwo ?_
  show n * Nat.pow 5 k * 10 ^ 0 * Nat.pow 2 k = n * 10 ^ k
  rw [hten, Nat.pow_zero, Nat.mul_one, Nat.mul_assoc, Nat.mul_comm (Nat.pow 5 k)]

theorem magnitude_exactDecimal {m : Nat} (h : m < infiniteMagnitude) :
    (exactDecimal m).magnitude = m := by
  have hexponent : (-1074 : Int) = -((1074 : Nat) : Int) := rfl
  have hunits := magnitudeOfRatio_units h
  rw [exactDecimal, hexponent]
  generalize 1074 = places at hunits ⊢
  rw [magnitude_mul_five, hunits]

/-- Only a neighbour that reads back is taken. -/
theorem magnitude_of_nearestOnGrid {tie : Tie} {m : Nat} {exponent : Int} {d : Decimal}
    (h : nearestOnGrid tie m exponent = some d) : d.magnitude = m := by
  unfold nearestOnGrid at h
  simp only at h
  split at h
  · next hbelow =>
    split at h <;> cases h
    · next habove =>
      rw [Bool.and_eq_true, decide_eq_true_eq] at habove
      exact habove.1
    · exact hbelow
  · split at h <;> cases h
    next habove => exact habove

theorem magnitude_shortestFrom {tie : Tie} {m : Nat} (h : m < infiniteMagnitude)
    (digits fuel : Nat) : (shortestFrom tie m digits fuel).magnitude = m := by
  induction fuel generalizing digits with
  | zero => rw [shortestFrom, magnitude_exactDecimal h]
  | succ fuel ih =>
    rw [shortestFrom]
    cases hgrid : nearestOnGrid tie m (leadingExponent (unitsOfMagnitude m) + 1 - digits) with
    | none => exact ih (digits + 1)
    | some d => exact magnitude_of_nearestOnGrid hgrid

/-- **The shortest numeral of a finite number reads back.** -/
theorem magnitude_shortest {tie : Tie} {x : Binary64} (h : x.isFinite = true) :
    (x.shortest tie).magnitude = x.magnitude := by
  unfold shortest
  split
  · next hzero =>
    have hmagnitude : x.magnitude = 0 := beq_iff_eq.1 hzero
    have hratio : Decimal.magnitude ⟨0, 0⟩ = magnitudeOfRatio 0 1 := by
      rw [Decimal.magnitude, Decimal.ratio, if_pos (Int.le_refl 0), Nat.zero_mul]
    rw [hmagnitude, hratio, magnitudeOfRatio_zero]
  · rw [Decimal.magnitude_dropZeros, magnitude_shortestFrom (of_decide_eq_true h)]

/-- A number is its sign and its magnitude. -/
theorem ofMagnitude_magnitude (x : Binary64) : ofMagnitude x.isNegative x.magnitude = x := by
  have hbits : x.bits.toNat < 2 ^ 64 := x.bits.toNat_lt
  have hweight : (if x.isNegative then signWeight + x.magnitude else x.magnitude) =
      x.bits.toNat := by
    by_cases h : signWeight ≤ x.bits.toNat
    · rw [show x.isNegative = true from decide_eq_true h, if_pos rfl]
      simp only [magnitude, signWeight] at h ⊢
      omega
    · rw [show x.isNegative = false from decide_eq_false h, if_neg Bool.false_ne_true]
      exact Nat.mod_eq_of_lt (Nat.lt_of_not_le h)
  rw [ofMagnitude, hweight, UInt64.ofNat_toNat]

end Binary64

/-! ### Plain numerals -/

open PlainNumeral (pointed)

theorem Decimal.isDigit_of_mem_digitText {d : Decimal} {c : Char} (h : c ∈ d.digitText) :
    c.isDigit = true :=
  Nat.isDigit_of_mem_toDigits (by decide) (by decide) h

theorem Decimal.digitsValue_digitText (d : Decimal) : digitsValue d.digitText = d.digits :=
  digitsValue_toDigits d.digits

namespace Decimal

/-- These digits, with a point between them, are the literal of the decimal, and a numeral with the
same magnitude. -/
structure LaidOut (d : Decimal) (whole places : List Char) : Prop where
  whole_ne_nil : whole ≠ []
  isDigit : ∀ c ∈ whole ++ places, c.isDigit = true
  text : NumberLayout.literal.decimalText d = whole ++ pointed places
  magnitude : Binary64.magnitudeOfRatio (digitsValue (whole ++ places)) (10 ^ places.length) =
    d.magnitude

variable {d : Decimal}

theorem literal_text (d : Decimal) : NumberLayout.literal.decimalText d =
    NumberLayout.literal.positionalText d.digitText d.exponent := rfl

theorem pointed_of_ne_nil {places : List Char} (h : places ≠ []) :
    pointed places = '.' :: places := by
  rw [pointed, if_neg (mt List.isEmpty_iff.1 h)]

/-- Zeros behind the digits stand for a power of ten. -/
theorem laidOut_whole (h : 0 ≤ d.exponent) :
    d.LaidOut (d.digitText ++ NumberLayout.zeros d.exponent.toNat) [] where
  whole_ne_nil := List.append_ne_nil_of_left_ne_nil Nat.toDigits_ne_nil _
  isDigit c hc := by
    rw [List.append_nil, List.mem_append] at hc
    exact hc.elim isDigit_of_mem_digitText isDigit_of_mem_zeros
  text := by
    rw [literal_text, NumberLayout.positionalText, if_pos h]
    rfl
  magnitude := by
    have hplaces : d.exponent + (0 : Nat) = (d.exponent.toNat : Nat) := by omega
    rw [d.magnitude_eq hplaces, List.append_nil, digitsValue_append, digitsValue_zeros,
      d.digitsValue_digitText, Nat.add_zero, NumberLayout.zeros, List.length_replicate]
    rfl

section Places

variable {count : Nat} (hexponent : d.exponent = -count) (hpositive : 0 < count)

include hexponent

/-- As many places as the exponent takes off leave the magnitude as it is. -/
theorem magnitude_of_places {digits : List Char} (hvalue : digitsValue digits = d.digits) :
    Binary64.magnitudeOfRatio (digitsValue digits) (10 ^ count) = d.magnitude := by
  have hplaces : d.exponent + (count : Nat) = (0 : Nat) := by omega
  rw [d.magnitude_eq hplaces, hvalue, Nat.pow_zero, Nat.mul_one]

include hpositive

theorem positionalText_of_places : NumberLayout.literal.decimalText d =
    if count < d.digitText.length then
      d.digitText.take (d.digitText.length - count) ++
        '.' :: d.digitText.drop (d.digitText.length - count)
    else "0.".toList ++ NumberLayout.zeros (count - d.digitText.length) ++ d.digitText := by
  have hnegative : ¬0 ≤ d.exponent := by omega
  have hcount : (-d.exponent).toNat = count := by omega
  rw [literal_text, NumberLayout.positionalText, if_neg hnegative, hcount]

/-- The point stands among the digits. -/
theorem laidOut_among (h : count < d.digitText.length) :
    d.LaidOut (d.digitText.take (d.digitText.length - count))
      (d.digitText.drop (d.digitText.length - count)) := by
  have hlength : (d.digitText.drop (d.digitText.length - count)).length = count := by
    rw [List.length_drop]
    omega
  refine ⟨?_, ?_, ?_, ?_⟩
  · apply List.ne_nil_of_length_pos
    rw [List.length_take]
    omega
  · rw [List.take_append_drop]
    exact fun c => isDigit_of_mem_digitText
  · rw [positionalText_of_places hexponent hpositive, if_pos h,
      pointed_of_ne_nil (List.ne_nil_of_length_pos (by omega))]
  · rw [List.take_append_drop, hlength]
    exact magnitude_of_places hexponent d.digitsValue_digitText

/-- All digits are places, with zeros in front of them. -/
theorem laidOut_behind (h : ¬count < d.digitText.length) :
    d.LaidOut ['0'] (NumberLayout.zeros (count - d.digitText.length) ++ d.digitText) := by
  have hlength : (NumberLayout.zeros (count - d.digitText.length) ++ d.digitText).length =
      count := by
    rw [List.length_append, NumberLayout.zeros, List.length_replicate]
    omega
  refine ⟨List.cons_ne_nil _ _, ?_, ?_, ?_⟩
  · intro c hc
    rw [List.singleton_append, List.mem_cons, List.mem_append] at hc
    rcases hc with rfl | hc | hc
    · decide
    · exact isDigit_of_mem_zeros hc
    · exact isDigit_of_mem_digitText hc
  · rw [positionalText_of_places hexponent hpositive, if_neg h,
      pointed_of_ne_nil (List.ne_nil_of_length_pos (by omega))]
    exact List.append_assoc ..
  · rw [hlength]
    apply magnitude_of_places hexponent
    rw [digitsValue_append, digitsValue_append, digitsValue_zeros, d.digitsValue_digitText,
      Nat.zero_mul, Nat.zero_add]
    simp [digitsValue]

end Places

/-- The literal of a decimal is a plain numeral with the same magnitude. -/
theorem exists_laidOut (d : Decimal) : ∃ whole places, d.LaidOut whole places := by
  by_cases hexponent : 0 ≤ d.exponent
  · exact ⟨_, _, laidOut_whole hexponent⟩
  · obtain ⟨count, hcount, hpositive⟩ : ∃ count : Nat, d.exponent = -count ∧ 0 < count :=
      ⟨(-d.exponent).toNat, by omega, by omega⟩
    by_cases hamong : count < d.digitText.length
    · exact ⟨_, _, laidOut_among hcount hpositive hamong⟩
    · exact ⟨_, _, laidOut_behind hcount hpositive hamong⟩

end Decimal

/-- **A finite number is written as a plain numeral of itself.** -/
theorem exists_plainNumeral {x : Binary64} (h : x.isFinite = true) :
    ∃ n : PlainNumeral, NumberLayout.literal.write x = String.ofList n.text ∧ n.value = x := by
  obtain ⟨whole, places, hne, hdigits, htext, hmagnitude⟩ :=
    (x.shortest NumberLayout.literal.tie).exists_laidOut
  refine ⟨⟨x.isNegative, whole, places, hne, hdigits⟩, ?_, ?_⟩
  · have hnumber : ¬Binary64.infiniteMagnitude < x.magnitude :=
      Nat.lt_asymm (of_decide_eq_true h)
    rw [NumberLayout.write, if_neg hnumber, if_pos h, htext]
    rfl
  · have hvalue : PlainNumeral.value ⟨x.isNegative, whole, places, hne, hdigits⟩ =
        .ofMagnitude x.isNegative
          (Binary64.magnitudeOfRatio (digitsValue (whole ++ places)) (10 ^ places.length)) := rfl
    rw [hvalue, hmagnitude, Binary64.magnitude_shortest h, Binary64.ofMagnitude_magnitude]

end RequestSql
