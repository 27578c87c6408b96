import AccessPolicy.Json.Basic
import AccessPolicy.Proofs.Json.ReadTokens

/-!
# The form of printed numbers

A number is printed as a sign, digits without a leading zero, a fraction and an exponent, of which
only the digits are always there (`signedNumberText_intChars`, `signedNumberText_floatChars`).
-/

namespace AccessPolicy

-- ---------------------------------------------------------------------------
-- Digits of binary64 numbers
-- ---------------------------------------------------------------------------

namespace Binary64

variable {units : Nat}

theorem gap_le (h : units ≠ 0) : gap units ≤ units := by
  have hpower : 2 ^ (units.log2 - 52) ≤ 2 ^ units.log2 :=
    Nat.pow_le_pow_right (by decide) (Nat.sub_le ..)
  exact Nat.le_trans hpower (Nat.log2_self_le h)

theorem gapBelow_le (h : units ≠ 0) : gapBelow units ≤ units := by
  rw [gapBelow]
  split
  · exact Nat.le_trans (Nat.div_le_self ..) (gap_le h)
  · exact gap_le h

theorem tenths_pos (exponent : Int) : 0 < (tenths exponent).2 := by
  cases exponent with
  | ofNat power => exact Nat.one_pos
  | negSucc power => exact Nat.pow_pos (by decide)

theorem digits_ne_zero_of_readsBack (h : units ≠ 0) (hread : readsBack units decimal = true) :
    decimal.digits ≠ 0 := by
  intro hzero
  have hlow : 0 < (2 * units - gapBelow units) * (tenths decimal.exponent).2 := by
    have hgap := gapBelow_le h
    exact Nat.mul_pos (by omega) (tenths_pos _)
  simp only [readsBack, hzero, Nat.mul_zero, Nat.zero_mul] at hread
  split at hread
  · simp only [Bool.and_eq_true, decide_eq_true_eq] at hread
    omega
  · simp only [Bool.and_eq_true, decide_eq_true_eq] at hread
    omega

theorem readsBack_of_onGrid (h : onGrid units exponent = some decimal) :
    readsBack units decimal = true := by
  simp only [onGrid] at h
  split at h
  · next hbelow habove =>
    split at h
    · exact Option.some.inj h ▸ hbelow
    · exact Option.some.inj h ▸ habove
  · next hbelow _ => exact Option.some.inj h ▸ hbelow
  · next _ habove => exact Option.some.inj h ▸ habove
  · cases h

theorem digits_trim_ne_zero (h : decimal.digits ≠ 0) : (trim count decimal).digits ≠ 0 := by
  induction count generalizing decimal with
  | zero => exact h
  | succ count ih =>
    rw [trim]
    split
    · next htens =>
      apply ih
      dsimp only
      omega
    · exact h

theorem digits_trimmed {found : Option Decimal} (h : ∀ decimal ∈ found, decimal.digits ≠ 0) :
    (trimmed found).digits ≠ 0 ∨ (trimmed found).exponent = 0 := by
  cases found with
  | none => exact .inr rfl
  | some decimal => exact .inl (digits_trim_ne_zero (h decimal rfl))

theorem digits_shortest (h : units ≠ 0) :
    (shortest units).digits ≠ 0 ∨ (shortest units).exponent = 0 := by
  refine digits_trimmed fun decimal hfound => ?_
  obtain ⟨_, -, hgrid⟩ := List.exists_of_findSome?_eq_some (Option.mem_def.1 hfound)
  exact digits_ne_zero_of_readsBack h (readsBack_of_onGrid hgrid)

end Binary64

namespace Json

-- ---------------------------------------------------------------------------
-- The parts of a number
-- ---------------------------------------------------------------------------

structure Digits (text : List Char) : Prop where
  nonempty : text ≠ []
  isDigit : ∀ c ∈ text, c.isDigit = true

/-- Digits of which the first is no zero, or zero alone. -/
structure Whole (text : List Char) : Prop extends Digits text where
  leading : ∀ more, text = '0' :: more → more = []

inductive Fraction : List Char → Prop
  | absent : Fraction []
  | present (h : Digits text) : Fraction ('.' :: text)

inductive Exponent : List Char → Prop
  | absent : Exponent []
  | present (hsign : sign = '+' ∨ sign = '-') (h : Digits text) : Exponent ('e' :: sign :: text)

inductive NumberText : List Char → Prop
  | intro (hwhole : Whole whole) (hfraction : Fraction fraction) (hexponent : Exponent exponent) :
    NumberText (whole ++ (fraction ++ exponent))

inductive SignedNumberText : List Char → Prop
  | positive (h : NumberText text) : SignedNumberText text
  | negative (h : NumberText text) : SignedNumberText ('-' :: text)

section
variable {text more : List Char}

theorem digits_toDigits (n : Nat) : Digits (Nat.toDigits 10 n) :=
  ⟨Nat.toDigits_ne_nil, fun _ => isDigit_of_mem_toDigits⟩

theorem Digits.append_left (h : Digits text) (hmore : ∀ c ∈ more, c.isDigit = true) :
    Digits (text ++ more) :=
  ⟨List.append_ne_nil_of_left_ne_nil h.nonempty more,
    List.forall_mem_append.2 ⟨h.isDigit, hmore⟩⟩

theorem Digits.append_right (h : Digits text) (hmore : ∀ c ∈ more, c.isDigit = true) :
    Digits (more ++ text) :=
  ⟨List.append_ne_nil_of_right_ne_nil more h.nonempty,
    List.forall_mem_append.2 ⟨hmore, h.isDigit⟩⟩

theorem Digits.take (h : Digits text) (hn : 0 < n) : Digits (text.take n) := by
  refine ⟨fun hnil => ?_, fun c hc => h.isDigit c (List.mem_of_mem_take hc)⟩
  rcases List.take_eq_nil_iff.1 hnil with rfl | hnil
  · exact absurd hn (Nat.lt_irrefl 0)
  · exact h.nonempty hnil

theorem Digits.drop (h : Digits text) (hn : n < text.length) : Digits (text.drop n) :=
  ⟨fun hnil => Nat.not_le_of_lt hn (List.drop_eq_nil_iff.1 hnil),
    fun c hc => h.isDigit c (List.mem_of_mem_drop hc)⟩

theorem isDigit_of_mem_zeros {count : Nat} : ∀ c ∈ List.replicate count '0', c.isDigit = true := by
  intro c hc
  rw [List.eq_of_mem_replicate hc]
  rfl

theorem whole_zero : Whole ['0'] where
  nonempty := List.cons_ne_nil _ _
  isDigit := List.forall_mem_singleton.2 rfl
  leading := by
    rintro more ⟨⟩
    rfl

theorem whole_toDigits (n : Nat) : Whole (Nat.toDigits 10 n) := by
  refine ⟨digits_toDigits n, fun more hzero => ?_⟩
  rw [toDigits_leading_zero hzero, Nat.toDigits_zero] at hzero
  exact (List.cons.inj hzero).2.symm

theorem whole_of_toDigits (hn : n ≠ 0) (h : Digits text)
    (hsame : text.head? = (Nat.toDigits 10 n).head?) : Whole text := by
  refine ⟨h, fun more hzero => absurd ?_ hn⟩
  obtain ⟨c, rest, hdigits⟩ := List.exists_cons_of_ne_nil (@Nat.toDigits_ne_nil n 10)
  rw [hzero, hdigits] at hsame
  obtain rfl := Option.some.inj hsame
  exact toDigits_leading_zero hdigits

theorem numberText_toDigits (n : Nat) : NumberText (Nat.toDigits 10 n) := by
  have h : NumberText (Nat.toDigits 10 n ++ ([] ++ [])) :=
    .intro (whole_toDigits n) .absent .absent
  rwa [List.append_nil, List.append_nil] at h

theorem numberText_point (hwhole : Whole text) (h : Digits more) :
    NumberText (text ++ '.' :: more) := by
  have hnumber : NumberText (text ++ ('.' :: more ++ [])) := .intro hwhole (.present h) .absent
  rwa [List.append_nil] at hnumber

theorem whole_take_one (h : Digits text) : Whole (text.take 1) := by
  refine ⟨h.take Nat.one_pos, fun more hmore => ?_⟩
  have hone := congrArg List.length hmore
  rw [List.length_take, List.length_cons] at hone
  exact List.length_eq_zero_iff.1 (by omega)

theorem exponent_toDigits (power : Int) :
    Exponent ('e' :: (if 0 ≤ power then '+' else '-') :: Nat.toDigits 10 power.natAbs) := by
  refine .present ?_ (digits_toDigits _)
  split
  · exact .inl rfl
  · exact .inr rfl

/-- The digits of zero are only printed with a point behind them. -/
theorem numberText_decimalChars (h : n ≠ 0 ∨ exponent = 0) :
    NumberText (decimalChars (Nat.toDigits 10 n) exponent) := by
  have hdigits := digits_toDigits n
  have hlength : 0 < (Nat.toDigits 10 n).length := List.length_pos_iff.2 hdigits.nonempty
  have hzero : Digits ['0'] := whole_zero.toDigits
  simp only [decimalChars]
  split
  · split
    · next hpositive =>
      rw [List.append_assoc, ← List.append_assoc]
      refine numberText_point ?_ hzero
      rcases h with hn | rfl
      · refine whole_of_toDigits hn (hdigits.append_left isDigit_of_mem_zeros) ?_
        rw [List.head?_append, List.head?_eq_some_head hdigits.nonempty, Option.some_or]
      · rw [Int.toNat_zero, List.replicate_zero, List.append_nil]
        exact whole_toDigits n
    · split
      · next hnegative hleading =>
        have hn : n ≠ 0 := h.resolve_right (by omega)
        refine numberText_point (whole_of_toDigits hn (hdigits.take (Nat.succ_pos _)) ?_)
          (hdigits.drop (by omega))
        rw [List.head?_take, if_neg (Nat.succ_ne_zero _)]
      · exact numberText_point whole_zero (hdigits.append_right isDigit_of_mem_zeros)
  · rw [List.append_assoc]
    refine .intro (whole_take_one hdigits) ?_ (exponent_toDigits _)
    split
    · exact .absent
    · exact .present (hdigits.drop (by omega))

theorem NumberText.exists_digit (h : NumberText text) :
    ∃ c more, text = c :: more ∧ c.isDigit = true := by
  obtain ⟨hwhole, -, -⟩ := h
  obtain ⟨c, more, rfl⟩ := List.exists_cons_of_ne_nil hwhole.nonempty
  exact ⟨c, _, rfl, hwhole.isDigit c List.mem_cons_self⟩

-- ---------------------------------------------------------------------------
-- Signs
-- ---------------------------------------------------------------------------

theorem signedNumberText_intChars (value : Int) : SignedNumberText (intChars value) := by
  cases value with
  | ofNat n => exact .positive (numberText_toDigits n)
  | negSucc n => exact .negative (numberText_toDigits (n + 1))

theorem signedNumberText_floatChars (value : Binary64) : SignedNumberText (floatChars value) := by
  have h : NumberText (if value.units = 0 then ['0', '.', '0'] else
      decimalChars (Nat.toDigits 10 (Binary64.shortest value.units).digits)
        (Binary64.shortest value.units).exponent) := by
    split
    · exact numberText_point whole_zero whole_zero.toDigits
    · next hunits => exact numberText_decimalChars (Binary64.digits_shortest hunits)
  simp only [floatChars]
  split
  · exact .negative h
  · exact .positive h

structure OpensScalar (c : Char) : Prop where
  not_blank : Cursor.isBlank c = false
  not_bracket : c ≠ '[' ∧ c ≠ ']'
  not_brace : c ≠ '\x7b'

theorem opensScalar_digit {c : Char} (h : c.isDigit = true) : OpensScalar c := by
  have hne {d : Char} (hd : d.isDigit = false) : c ≠ d := by
    rintro rfl
    exact Bool.false_ne_true (hd.symm.trans h)
  refine ⟨?_, ⟨hne rfl, hne rfl⟩, hne rfl⟩
  simp [Cursor.isBlank, @hne ' ' rfl, @hne '\n' rfl, @hne '\t' rfl, @hne '\r' rfl]

theorem SignedNumberText.opens (h : SignedNumberText text) :
    ∃ c more, text = c :: more ∧ OpensScalar c := by
  cases h with
  | positive h =>
    obtain ⟨c, more, rfl, hdigit⟩ := h.exists_digit
    exact ⟨c, more, rfl, opensScalar_digit hdigit⟩
  | negative _ => exact ⟨_, _, rfl, rfl, by decide, by decide⟩

theorem scalarChars_opens (value : Json) :
    ∃ c more, scalarChars value = c :: more ∧ OpensScalar c := by
  cases value with
  | bool value => cases value <;> exact ⟨_, _, rfl, rfl, by decide, by decide⟩
  | int value => exact (signedNumberText_intChars value).opens
  | float value => exact (signedNumberText_floatChars value).opens
  | _ => exact ⟨_, _, rfl, rfl, by decide, by decide⟩

theorem opensScalar_of_scalarChars {value : Json} (h : scalarChars value = c :: more) :
    OpensScalar c := by
  obtain ⟨_, _, hchars, hc⟩ := scalarChars_opens value
  obtain ⟨rfl, -⟩ := List.cons.inj (hchars.symm.trans h)
  exact hc

end

end Json

end AccessPolicy
