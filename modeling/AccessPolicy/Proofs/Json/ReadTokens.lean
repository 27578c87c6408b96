import AccessPolicy.Json.Basic
import AccessPolicy.Json.Reader

/-!
# Reading printed strings and integers

`Reads reader text rest value` says that a reader which stands before `text` and then `rest` goes
past `text` and gives `value`. Where it stands in lines and columns has no influence.
-/

namespace AccessPolicy.Json

/-- A reader goes past a text, whatever comes after it being `rest`, and gives a value. -/
def Reads (reader : Cursor → Outcome (α × Cursor)) (text rest : List Char) (value : α) : Prop :=
  ∀ cursor : Cursor, cursor.rest = text ++ rest →
    ∃ after : Cursor, reader cursor = .ok (value, after) ∧ after.rest = rest

-- ---------------------------------------------------------------------------
-- Cursors
-- ---------------------------------------------------------------------------

section
variable {cursor : Cursor}

theorem peek?_of_rest (h : cursor.rest = c :: rest) : cursor.peek? = some c := by
  rw [Cursor.peek?, h, List.head?_cons]

theorem rest_advance (h : cursor.rest = c :: rest) : cursor.advance.rest = rest := by
  rw [Cursor.advance, h]

theorem rest_dropWhile {test : Char → Bool} (htext : ∀ c ∈ text, test c = true)
    (hstop : ∀ c ∈ rest.head?, test c = false) (h : cursor.rest = text ++ rest) :
    (cursor.dropWhile test).rest = rest := by
  rw [Cursor.dropWhile, h, List.dropWhile_append_of_pos htext]
  cases rest with
  | nil => rfl
  | cons c more => exact List.dropWhile_cons_of_neg (by simp [hstop c rfl])

def Blank (text : List Char) : Prop := ∀ c ∈ text, Cursor.isBlank c = true

theorem rest_skipBlanks (hb : Blank blanks) (hc : Cursor.isBlank c = false)
    (h : cursor.rest = blanks ++ c :: rest) : cursor.skipBlanks.rest = c :: rest :=
  rest_dropWhile hb (fun _ hd => Option.some.inj hd ▸ hc) h

theorem skipBlanks_eq_self (hc : Cursor.isBlank c = false) (h : cursor.rest = c :: rest) :
    cursor.skipBlanks = cursor := by
  rw [Cursor.skipBlanks, Cursor.dropWhile, h, List.dropWhile_cons_of_neg (by simp [hc]),
    List.takeWhile_cons_of_neg (by simp [hc]), List.foldl_nil, ← h]

end

-- ---------------------------------------------------------------------------
-- Strings
-- ---------------------------------------------------------------------------

theorem hexValue?_hexDigit : ∀ n < 16, hexValue? (hexDigit n) = some n := by decide

theorem utf8Size_hexDigit : ∀ n < 16, (hexDigit n).utf8Size = 1 := by decide

theorem readHex_control (hn : n < 32)
    (h : cursor.rest = '0' :: '0' :: hexDigit (n / 16) :: hexDigit (n % 16) :: rest) :
    ∃ after : Cursor, readHex cursor = .ok (n, after) ∧ after.rest = rest := by
  have hhigh := utf8Size_hexDigit (n / 16) (by omega)
  have hlow := utf8Size_hexDigit (n % 16) (by omega)
  have hdigits : ['0', '0', hexDigit (n / 16), hexDigit (n % 16)].mapM hexValue? =
      some [0, 0, n / 16, n % 16] := by
    simp [hexValue?_hexDigit (n / 16) (by omega), hexValue?_hexDigit (n % 16) (by omega),
      show hexValue? '0' = some 0 from rfl]
  refine ⟨cursor.advance.advance.advance.advance, ?_,
    rest_advance (rest_advance (rest_advance (rest_advance h)))⟩
  have htake : cursor.rest.take 4 = ['0', '0', hexDigit (n / 16), hexDigit (n % 16)] := by
    rw [h]
    rfl
  have hzero : '0'.utf8Size = 1 := rfl
  have hvalue : (((0 * 16 + 0) * 16 + 0) * 16 + n / 16) * 16 + n % 16 = n := by omega
  simp only [readHex, htake, hdigits, List.foldl_cons, List.foldl_nil, hzero, hhigh, hlow, hvalue]
  rfl

theorem readUnicodeEscape_control {c : Char} (hc : c.toNat < 32)
    (h : cursor.rest =
      '0' :: '0' :: hexDigit (c.toNat / 16) :: hexDigit (c.toNat % 16) :: rest) :
    ∃ after : Cursor, readUnicodeEscape cursor = .ok (c, after) ∧ after.rest = rest := by
  obtain ⟨after, hread, hafter⟩ := readHex_control hc h
  have hlow : isLowSurrogate c.toNat = false := by simp [isLowSurrogate]; omega
  have hhigh : isHighSurrogate c.toNat = false := by simp [isHighSurrogate]; omega
  refine ⟨after, ?_, hafter⟩
  rw [readUnicodeEscape, hread]
  simp [bind, Except.bind, hlow, hhigh, Char.ofNat_toNat]

theorem reads_letter (hread : ∀ cursor : Cursor, cursor.peek? = some letter →
    readEscape cursor = .ok (c, cursor.advance)) : Reads readEscape [letter] rest c :=
  fun cursor h => ⟨cursor.advance, hread cursor (peek?_of_rest h), rest_advance h⟩

theorem reads_control {c : Char} (hc : c.toNat < 32) :
    Reads readEscape ['u', '0', '0', hexDigit (c.toNat / 16), hexDigit (c.toNat % 16)] rest c := by
  intro cursor h
  obtain ⟨after, hread, hafter⟩ := readUnicodeEscape_control hc (rest_advance h)
  refine ⟨after, ?_, hafter⟩
  rw [readEscape, peek?_of_rest h]
  exact hread

/-- A printed character is itself, or an escape that reads back as the character. -/
theorem escapeChar_cases (c : Char) :
    escapeChar c = [c] ∧ c ≠ '"' ∧ c ≠ '\\' ∧ 32 ≤ c.toNat ∨
      ∃ escape, escapeChar c = '\\' :: escape ∧ ∀ rest, Reads readEscape escape rest c := by
  unfold escapeChar
  iterate 7
    split
    · subst c
      exact .inr ⟨_, rfl, fun _ => reads_letter fun cursor h => by rw [readEscape, h]; rfl⟩
  split
  · next hcontrol => exact .inr ⟨_, rfl, fun _ => reads_control hcontrol⟩
  · next hcontrol => exact .inl ⟨rfl, ‹_›, ‹_›, Nat.le_of_not_lt hcontrol⟩

theorem readStringTail_escapeChars (read : List Char) {text : List Char} (hs : text.length < steps)
    (h : cursor.rest = escapeChars text ++ '"' :: rest) :
    ∃ after : Cursor, readStringTail steps read cursor =
      .ok (String.ofList (read.reverse ++ text), after) ∧ after.rest = rest := by
  induction text generalizing steps read cursor with
  | nil =>
    obtain ⟨steps, rfl⟩ := Nat.exists_eq_succ_of_ne_zero (Nat.ne_of_gt hs)
    refine ⟨cursor.advance, ?_, rest_advance h⟩
    rw [readStringTail, peek?_of_rest h]
    simp
  | cons c text ih =>
    obtain ⟨steps, rfl⟩ := Nat.exists_eq_succ_of_ne_zero (Nat.ne_zero_of_lt hs)
    have hlater : text.length < steps := Nat.lt_of_succ_lt_succ hs
    have happend : read.reverse ++ c :: text = (c :: read).reverse ++ text := by simp
    rw [escapeChars, List.flatMap_cons, List.append_assoc] at h
    rw [readStringTail, happend]
    rcases escapeChar_cases c with ⟨hplain, hquote, hslash, hcontrol⟩ | ⟨escape, hesc, hread⟩
    · rw [hplain] at h
      rw [peek?_of_rest h]
      simp only [hquote, hslash, Nat.not_lt_of_le hcontrol, if_false]
      exact ih _ hlater (rest_advance h)
    · rw [hesc] at h
      obtain ⟨after, hescape, hafter⟩ := hread _ cursor.advance (rest_advance h)
      rw [peek?_of_rest h]
      simp only [hescape]
      exact ih _ hlater hafter

theorem length_le_escapeChars (text : List Char) : text.length ≤ (escapeChars text).length := by
  induction text with
  | nil => exact Nat.zero_le _
  | cons c text ih =>
    have hone : 1 ≤ (escapeChar c).length := by
      rcases escapeChar_cases c with ⟨hplain, -⟩ | ⟨escape, hesc, -⟩ <;> simp [*]
    rw [escapeChars, List.flatMap_cons, List.length_append, List.length_cons]
    rw [escapeChars] at ih
    omega

theorem reads_string (text : String) :
    Reads readString (escapeChars text.toList ++ ['"']) rest text := by
  intro cursor h
  rw [List.append_assoc, List.singleton_append] at h
  have hsteps : text.toList.length < cursor.rest.length := by
    have hle := length_le_escapeChars text.toList
    rw [h, List.length_append, List.length_cons]
    omega
  obtain ⟨after, hread, hafter⟩ := readStringTail_escapeChars [] hsteps h
  refine ⟨after, ?_, hafter⟩
  rw [readString, hread]
  simp

-- ---------------------------------------------------------------------------
-- Integers
-- ---------------------------------------------------------------------------

def EndsNumber (rest : List Char) : Prop :=
  ∀ c ∈ rest.head?, c.isDigit = false ∧ c ≠ '.' ∧ c ≠ 'e' ∧ c ≠ 'E'

theorem isDigit_of_mem_toDigits (h : c ∈ Nat.toDigits 10 n) : c.isDigit = true :=
  Nat.isDigit_of_mem_toDigits (by decide) (by decide) h

theorem toDigits_leading_zero (h : Nat.toDigits 10 n = '0' :: rest) : n = 0 := by
  induction n using Nat.base_induction 10 (by decide) generalizing rest with
  | single m hm =>
    rw [Nat.toDigits_of_lt_base hm] at h
    have hzero := congrArg Char.toNat (List.cons.inj h).1
    rw [Nat.toNat_digitChar_of_lt_ten hm] at hzero
    exact Nat.add_left_cancel (hzero.trans (Nat.add_zero _).symm)
  | digit m k hk hm ih =>
    rw [← Nat.toDigits_append_toDigits (by decide) hm hk] at h
    cases hdigits : Nat.toDigits 10 m with
    | nil => exact absurd hdigits Nat.toDigits_ne_nil
    | cons c more =>
      rw [hdigits, List.cons_append] at h
      rw [(List.cons.inj h).1] at hdigits
      exact absurd (ih hdigits) (Nat.ne_of_gt hm)

/-- Digits are taken while the number fits a word, so all are if the whole number fits. -/
theorem absorb_eq (h : Nat.ofDigitChars 10 digits significand ≤ greatestWord) :
    absorb significand digits = (Nat.ofDigitChars 10 digits significand, digits.length) := by
  induction digits generalizing significand with
  | nil => rfl
  | cons c rest ih =>
    rw [Nat.ofDigitChars_cons, Nat.mul_comm] at h
    have hlonger : significand * 10 + digitValue c ≤ greatestWord := by
      refine Nat.le_trans ?_ h
      rw [Nat.ofDigitChars_eq_ofDigitChars_zero]
      exact Nat.le_trans (Nat.le_mul_of_pos_left _ (Nat.pow_pos (by decide))) (Nat.le_add_right ..)
    rw [absorb, if_neg (Nat.not_lt_of_le hlonger), digitValue, ih h, Nat.ofDigitChars_cons,
      Nat.mul_comm 10, List.length_cons]

theorem takeDigits_of_rest (hd : ∀ c ∈ digits, Char.isDigit c = true) (he : EndsNumber rest)
    (h : cursor.rest = digits ++ rest) :
    ∃ after : Cursor, takeDigits cursor = (digits, after) ∧ after.rest = rest := by
  have hstop : rest.takeWhile Char.isDigit = [] := by
    cases rest with
    | nil => rfl
    | cons c more => exact List.takeWhile_cons_of_neg (by simp [(he c rfl).1])
  refine ⟨cursor.dropWhile Char.isDigit, ?_, rest_dropWhile hd (fun c hc => (he c hc).1) h⟩
  rw [takeDigits, h, List.takeWhile_append_of_pos hd, hstop, List.append_nil]

/-- A printed number has no leading zero but that of zero itself, which the reader takes alone. -/
theorem takeNumber_of_rest (he : EndsNumber rest) (h : cursor.rest = Nat.toDigits 10 n ++ rest)
    (hc : cursor.peek? = some c) :
    ∃ after : Cursor, (if c = '0' then (['0'], cursor.advance) else takeDigits cursor) =
      (Nat.toDigits 10 n, after) ∧ after.rest = rest := by
  split
  · next hzero =>
    cases hdigits : Nat.toDigits 10 n with
    | nil => exact absurd hdigits Nat.toDigits_ne_nil
    | cons d more =>
      rw [hdigits, List.cons_append] at h
      rw [peek?_of_rest h] at hc
      obtain rfl := Option.some.inj hc
      rw [hzero] at hdigits
      have hn := toDigits_leading_zero hdigits
      rw [hn, Nat.toDigits_zero] at hdigits
      obtain ⟨-, rfl⟩ := List.cons.inj hdigits
      exact ⟨cursor.advance, by rw [hzero], rest_advance h⟩
  · exact takeDigits_of_rest (fun c => isDigit_of_mem_toDigits) he h

theorem reads_number (hn : n ≤ greatestWord) (he : EndsNumber rest)
    (hwhole : ∀ after, wholeNumber negative n after = .ok (value, after)) :
    Reads (readNumber negative) (Nat.toDigits 10 n) rest value := by
  intro cursor h
  obtain ⟨c, more, hdigits⟩ := List.exists_cons_of_ne_nil (@Nat.toDigits_ne_nil n 10)
  have hrest : cursor.rest = c :: (more ++ rest) := by rw [h, hdigits, List.cons_append]
  have hc : cursor.peek? = some c := peek?_of_rest hrest
  have hdigit : c.isDigit = true := isDigit_of_mem_toDigits (hdigits ▸ List.mem_cons_self)
  obtain ⟨after, htake, hafter⟩ := takeNumber_of_rest he h hc
  have habsorb : absorb 0 (Nat.toDigits 10 n) = (n, (Nat.toDigits 10 n).length) := by
    rw [absorb_eq (by rw [Nat.ofDigitChars_ten_toDigits]; exact hn), Nat.ofDigitChars_ten_toDigits]
  refine ⟨after, ?_, hafter⟩
  simp only [readNumber, hc, hdigit, htake, habsorb, Nat.sub_self, Bool.not_true, if_false,
    Bool.false_eq_true, if_true, hwhole]
  cases rest with
  | nil => simp [Cursor.peek?, hafter]
  | cons d later =>
    obtain ⟨hd, hpoint, hlower, hupper⟩ := he d rfl
    rw [peek?_of_rest hafter]
    split <;> simp_all

end AccessPolicy.Json
