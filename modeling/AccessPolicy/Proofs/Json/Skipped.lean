import AccessPolicy.Json.Skip
import AccessPolicy.Proofs.Json.ReadBack

/-!
# Printed values are passed over

Whatever value it is of, a layout has the form that is asked of a value that nobody reads
(`passes_layout`). The steps that passing over it takes are fewer than twice its characters.
-/

namespace AccessPolicy.Json

/-- The work goes past a text, whatever comes after it being `rest`. -/
def Passes (skip : Cursor → Outcome Cursor) (text rest : List Char) : Prop :=
  ∀ cursor : Cursor, cursor.rest = text ++ rest →
    ∃ after, skip cursor = .ok after ∧ after.rest = rest

-- ---------------------------------------------------------------------------
-- Numbers
-- ---------------------------------------------------------------------------

section
variable {text rest : List Char}

theorem peek?_eq_head? {cursor : Cursor} (h : cursor.rest = text) : cursor.peek? = text.head? := by
  rw [Cursor.peek?, h]

theorem passes_digits (h : Digits text) (hstop : ∀ c ∈ rest.head?, c.isDigit = false) :
    Passes requireDigits text rest := by
  intro cursor hrest
  have hpeek : cursor.peek?.any Char.isDigit = true := by
    obtain ⟨c, more, rfl⟩ := List.exists_cons_of_ne_nil h.nonempty
    rw [peek?_of_rest hrest, Option.any_some]
    exact h.isDigit c List.mem_cons_self
  refine ⟨skipDigits cursor, ?_, rest_dropWhile h.isDigit hstop hrest⟩
  rw [requireDigits, if_pos hpeek]

theorem EndsNumber.not_digit (he : EndsNumber rest) : ∀ c ∈ rest.head?, c.isDigit = false :=
  fun c hc => (he c hc).1

theorem passes_exponent (h : Exponent text) (he : EndsNumber rest) :
    Passes skipExponent text rest := by
  intro cursor hrest
  cases h with
  | absent =>
    refine ⟨cursor, ?_, hrest⟩
    have hlower : rest.head? ≠ some 'e' := fun h => (he _ h).2.2.1 rfl
    have hupper : rest.head? ≠ some 'E' := fun h => (he _ h).2.2.2 rfl
    simp [skipExponent, atExponent, peek?_eq_head? hrest, hlower, hupper]
  | present hsign hdigits =>
    have hsigned := rest_advance hrest
    obtain ⟨after, hpass, hafter⟩ :=
      passes_digits hdigits he.not_digit cursor.advance.advance (rest_advance hsigned)
    refine ⟨after, ?_, hafter⟩
    have hplus : (cursor.advance.peek? = some '+' ∨ cursor.advance.peek? = some '-') := by
      rw [peek?_of_rest hsigned, Option.some.injEq, Option.some.injEq]
      exact hsign
    simp [skipExponent, atExponent, peek?_of_rest hrest, hplus, hpass]

theorem head?_tail_not_digit (hfraction : Fraction fraction) (hexponent : Exponent exponent)
    (he : EndsNumber rest) : ∀ c ∈ (fraction ++ exponent ++ rest).head?, c.isDigit = false := by
  cases hfraction with
  | present _ => rintro _ ⟨⟩; rfl
  | absent =>
    cases hexponent with
    | present _ _ => rintro _ ⟨⟩; rfl
    | absent => exact he.not_digit

/-- A first zero is all of the digits, so that no digit comes after it. -/
theorem not_digit_after_zero {cursor : Cursor} (h : Whole text)
    (hstop : ∀ c ∈ rest.head?, c.isDigit = false) (hrest : cursor.rest = text ++ rest) :
    (decide (cursor.peek? = some '0') && cursor.advance.peek?.any Char.isDigit) = false := by
  obtain ⟨c, more, rfl⟩ := List.exists_cons_of_ne_nil h.nonempty
  by_cases hc : c = '0'
  · subst hc
    obtain rfl := h.leading more rfl
    have hnext : cursor.advance.rest = rest := rest_advance hrest
    rw [peek?_eq_head? hnext, Bool.and_eq_false_iff]
    right
    cases hhead : rest.head? with
    | none => rfl
    | some d => exact hstop d hhead
  · simp [peek?_of_rest hrest, hc]

def skipFraction (cursor : Cursor) : Outcome Cursor :=
  if cursor.peek? = some '.' then requireDigits cursor.advance >>= skipExponent
  else skipExponent cursor

theorem passes_fraction (hfraction : Fraction fraction) (hexponent : Exponent exponent)
    (he : EndsNumber rest) : Passes skipFraction (fraction ++ exponent) rest := by
  intro cursor hrest
  rw [List.append_assoc] at hrest
  cases hfraction with
  | absent =>
    have hpoint : cursor.peek? ≠ some '.' := by
      rw [peek?_eq_head? hrest]
      cases hexponent with
      | absent => exact fun h => (he _ h).2.1 rfl
      | present _ _ => exact fun h => nomatch h
    rw [skipFraction, if_neg hpoint]
    exact passes_exponent hexponent he cursor hrest
  | present hdigits =>
    have hstop := head?_tail_not_digit .absent hexponent he
    obtain ⟨after, hpass, hafter⟩ :=
      passes_digits hdigits hstop cursor.advance (rest_advance hrest)
    rw [skipFraction, if_pos (peek?_of_rest hrest), hpass]
    exact passes_exponent hexponent he after hafter

theorem passes_number (h : NumberText text) (he : EndsNumber rest) :
    Passes skipNumber text rest := by
  intro cursor hrest
  obtain ⟨hwhole, hfraction, hexponent⟩ := h
  rw [List.append_assoc] at hrest
  have hstop := head?_tail_not_digit hfraction hexponent he
  obtain ⟨behind, hpass, hbehind⟩ := passes_digits hwhole.toDigits hstop cursor hrest
  have hskip : skipNumber cursor = skipFraction behind := by
    simp only [skipNumber, hpass, not_digit_after_zero hwhole hstop hrest, Bool.false_eq_true,
      if_false]
    rfl
  rw [hskip]
  exact passes_fraction hfraction hexponent he behind hbehind

end

-- ---------------------------------------------------------------------------
-- Strings
-- ---------------------------------------------------------------------------

section
variable {cursor : Cursor} {rest : List Char}

theorem passes_letter (h : letter ∈ ['"', '\\', '/', 'b', 'f', 'n', 'r', 't']) :
    Passes skipEscape [letter] rest := by
  intro cursor hrest
  have hletter : letter ≠ 'u' := by
    rintro rfl
    exact absurd h (by decide)
  refine ⟨cursor.advance, ?_, rest_advance hrest⟩
  simp only [skipEscape, peek?_of_rest hrest, if_neg hletter, if_pos h]

theorem passes_control {c : Char} (hc : c.toNat < 32) :
    Passes skipEscape ['u', '0', '0', hexDigit (c.toNat / 16), hexDigit (c.toNat % 16)] rest := by
  intro cursor hrest
  obtain ⟨after, hread, hafter⟩ := readHex_control hc (rest_advance hrest)
  refine ⟨after, ?_, hafter⟩
  rw [skipEscape, peek?_of_rest hrest]
  simp only [if_true, hread]
  rfl

theorem passes_escape {c : Char} (h : escapeChar c = '\\' :: escape) :
    Passes skipEscape escape rest := by
  unfold escapeChar at h
  iterate 7
    split at h
    · cases h
      exact passes_letter (by decide)
  split at h
  · next hcontrol =>
    cases h
    exact passes_control hcontrol
  · have hslash : c = '\\' := (List.cons.inj h).1
    contradiction

theorem skipStringTail_escapeChars {text : List Char} (hs : text.length < steps)
    (h : cursor.rest = escapeChars text ++ '"' :: rest) :
    ∃ after : Cursor, skipStringTail steps cursor = .ok after ∧ after.rest = rest := by
  induction text generalizing steps cursor with
  | nil =>
    obtain ⟨steps, rfl⟩ := Nat.exists_eq_succ_of_ne_zero (Nat.ne_of_gt hs)
    refine ⟨cursor.advance, ?_, rest_advance h⟩
    rw [skipStringTail, peek?_of_rest h]
    rfl
  | cons c text ih =>
    obtain ⟨steps, rfl⟩ := Nat.exists_eq_succ_of_ne_zero (Nat.ne_zero_of_lt hs)
    have hlater : text.length < steps := Nat.lt_of_succ_lt_succ hs
    rw [escapeChars, List.flatMap_cons, List.append_assoc] at h
    rw [skipStringTail]
    rcases escapeChar_cases c with ⟨hplain, hquote, hslash, hcontrol⟩ | ⟨escape, hesc, -⟩
    · rw [hplain] at h
      rw [peek?_of_rest h]
      simp only [hquote, hslash, Nat.not_lt_of_le hcontrol, if_false]
      exact ih hlater (rest_advance h)
    · rw [hesc] at h
      obtain ⟨after, hpass, hafter⟩ := passes_escape hesc cursor.advance (rest_advance h)
      rw [peek?_of_rest h]
      simp only [hpass]
      exact ih hlater hafter

theorem passes_string (text : String) :
    Passes skipString (escapeChars text.toList ++ ['"']) rest := by
  intro cursor h
  rw [List.append_assoc, List.singleton_append] at h
  have hsteps : text.toList.length < cursor.rest.length := by
    have hle := length_le_escapeChars text.toList
    rw [h, List.length_append, List.length_cons]
    omega
  exact skipStringTail_escapeChars hsteps h

end

-- ---------------------------------------------------------------------------
-- Words, numbers and strings
-- ---------------------------------------------------------------------------

def PassesScalar (c : Char) (more : List Char) : Prop :=
  ∀ rest, EndsNumber rest → Passes (skipScalar c) (c :: more) rest

theorem passesScalar_word (hc : c = 'n' ∨ c = 't' ∨ c = 'f')
    (hread : ReadsScalar c more value) : PassesScalar c more := by
  intro rest he cursor h
  obtain ⟨after, hvalue, hafter⟩ := hread rest he cursor h
  refine ⟨after, ?_, hafter⟩
  have hskip : skipScalar c cursor = (readScalar c cursor).map (·.2) := by
    rcases hc with rfl | rfl | rfl <;> rfl
  rw [hskip, hvalue]
  rfl

theorem passesScalar_string (text : String) :
    PassesScalar '"' (escapeChars text.toList ++ ['"']) :=
  fun _ _ cursor h => passes_string text cursor.advance (rest_advance h)

theorem passesScalar_number (h : SignedNumberText (c :: more)) : PassesScalar c more := by
  intro rest he cursor hrest
  cases h with
  | positive h =>
    obtain ⟨_, _, heq, hdigit⟩ := h.exists_digit
    obtain ⟨rfl, -⟩ := List.cons.inj heq
    have hskip : skipScalar c cursor = skipNumber cursor := by
      have hquote : c ≠ '"' := by rintro rfl; cases hdigit
      have hminus : c ≠ '-' := by rintro rfl; cases hdigit
      simp only [skipScalar, hquote, hminus, hdigit, if_false, if_true]
    rw [hskip]
    exact passes_number h he cursor hrest
  | negative h => exact passes_number h he cursor.advance (rest_advance hrest)

theorem passesScalar_scalarChars {value : Json} (h : scalarChars value = c :: more) :
    PassesScalar c more := by
  cases value with
  | bool value =>
    cases value with
    | false =>
      cases h
      exact passesScalar_word (.inr (.inr rfl)) (readsScalar_word fun _ => rfl)
    | true =>
      cases h
      exact passesScalar_word (.inr (.inl rfl)) (readsScalar_word fun _ => rfl)
  | int value => exact passesScalar_number (h ▸ signedNumberText_intChars value)
  | float value => exact passesScalar_number (h ▸ signedNumberText_floatChars value)
  | str text =>
    cases h
    exact passesScalar_string text
  | _ =>
    cases h
    exact passesScalar_word (.inl rfl) (readsScalar_word fun _ => rfl)

-- ---------------------------------------------------------------------------
-- Stages
-- ---------------------------------------------------------------------------

structure Stage where
  pending : Pending
  enclosures : List Enclosure
  cursor : Cursor

/-- What is left to do of a value at a stage, with a number of steps. -/
def Stage.finish (steps : Nat) (stage : Stage) : Outcome Cursor :=
  skipPending steps stage.pending stage.enclosures stage.cursor

def Goes (used : Nat) (stage later : Stage) : Prop :=
  ∀ steps, stage.finish (steps + used) = later.finish steps

section
variable {enclosures : List Enclosure} {enclosure : Enclosure} {cursor after : Cursor}

theorem Goes.trans {stage middle later : Stage} (h : Goes m stage middle)
    (hlater : Goes n middle later) : Goes (m + n) stage later := by
  intro steps
  rw [← hlater steps, ← h (steps + n), Nat.add_assoc, Nat.add_comm n m]

theorem goes_scalar (hc : OpensScalar c) (hpeek : cursor.skipBlanks.peek? = some c)
    (h : skipScalar c cursor.skipBlanks = .ok after) :
    Goes 1 ⟨.value, enclosures, cursor⟩ ⟨.between false, enclosures, after⟩ := by
  intro steps
  simp only [Stage.finish, skipPending, hpeek]
  split
  · next hend => cases hend
  · next hlist => exact absurd (Option.some.inj hlist) hc.not_bracket.1
  · next hobject => exact absurd (Option.some.inj hobject) hc.not_brace
  · next hother =>
    obtain rfl := Option.some.inj hother
    rw [h]

theorem goes_next (h : enclosure.next first cursor = .ok (true, after)) :
    Goes 1 ⟨.between first, enclosure :: enclosures, cursor⟩
      ⟨.value, enclosure :: enclosures, after⟩ := by
  intro steps
  simp only [Stage.finish, skipPending, h]
  rfl

theorem goes_close (h : enclosure.next first cursor = .ok (false, after)) :
    Goes 1 ⟨.between first, enclosure :: enclosures, cursor⟩
      ⟨.between false, enclosures, after⟩ := by
  intro steps
  simp only [Stage.finish, skipPending, h]
  rfl

def Enclosure.opener : Enclosure → Char
  | .list => '['
  | .object => '\x7b'

theorem goes_open (h : cursor.skipBlanks.peek? = some enclosure.opener) :
    Goes 1 ⟨.value, enclosures, cursor⟩
      ⟨.between true, enclosure :: enclosures, cursor.skipBlanks.advance⟩ := by
  intro steps
  cases enclosure <;> simp only [Stage.finish, skipPending, h, Enclosure.opener]

end

-- ---------------------------------------------------------------------------
-- Values
-- ---------------------------------------------------------------------------

/-- A value is passed over, with fewer steps than twice the characters of its text. -/
def PassesValue (text rest : List Char) : Prop :=
  ∀ (blanks : List Char) (enclosures : List Enclosure) (cursor : Cursor), Blank blanks →
    cursor.rest = blanks ++ (text ++ rest) →
    ∃ used after, used < 2 * text.length ∧ after.rest = rest ∧
      Goes used ⟨.value, enclosures, cursor⟩ ⟨.between false, enclosures, after⟩

theorem passesValue_scalar {value : Json} (h : scalarChars value = text) (he : EndsNumber rest) :
    PassesValue text rest := by
  intro blanks enclosures cursor hb hrest
  obtain ⟨c, more, rfl, hc⟩ := h ▸ scalarChars_opens value
  have hskip : cursor.skipBlanks.rest = c :: more ++ rest := rest_skipBlanks hb hc.not_blank hrest
  obtain ⟨after, hpass, hafter⟩ := passesScalar_scalarChars h rest he cursor.skipBlanks hskip
  refine ⟨1, after, ?_, hafter, goes_scalar hc (peek?_of_rest hskip) hpass⟩
  rw [List.length_cons]
  omega

/-- What stands for one value in an enclosure: an element, or a key and the value under it. -/
structure PassesPart (enclosure : Enclosure) (text rest : List Char) : Prop where
  opens : ∃ c more, text = c :: more ∧ Cursor.isBlank c = false ∧ c ≠ enclosure.closer
  passes : ∀ (blanks : List Char) (enclosures : List Enclosure) (cursor : Cursor), Blank blanks →
    cursor.rest = blanks ++ (text ++ rest) →
    ∃ entered used after, enclosure.enter cursor = .ok (true, entered) ∧
      used < 2 * text.length ∧ after.rest = rest ∧
      Goes used ⟨.value, enclosures, entered⟩ ⟨.between false, enclosures, after⟩

theorem passesPart_item (hopens : Opens text) (h : PassesValue text rest) :
    PassesPart .list text rest := by
  refine ⟨hopens, fun blanks enclosures cursor hb hrest => ?_⟩
  obtain ⟨used, after, hused, hafter, hgoes⟩ := h blanks enclosures cursor hb hrest
  exact ⟨cursor, used, after, rfl, hused, hafter, hgoes⟩

theorem passesPart_member (key : String) (hcolon : Blank colon) (h : PassesValue text rest) :
    PassesPart .object (stringChars key ++ ':' :: (colon ++ text)) rest := by
  refine ⟨⟨'"', _, rfl, rfl, by decide⟩, fun blanks enclosures cursor hb hrest => ?_⟩
  have hquote : cursor.skipBlanks.rest =
      '"' :: (escapeChars key.toList ++ ['"'] ++ ':' :: (colon ++ (text ++ rest))) :=
    rest_skipBlanks hb rfl (by rw [hrest]; simp [stringChars])
  obtain ⟨behind, hkey, hbehind⟩ :=
    passes_string key cursor.skipBlanks.advance (rest_advance hquote)
  have henter : Enclosure.enter .object cursor = .ok (true, behind.advance) := by
    simp only [Enclosure.enter, skipKey, peek?_of_rest hquote, hkey, bind, Except.bind,
      readColon_of_rest hbehind]
    rfl
  obtain ⟨used, after, hused, hafter, hgoes⟩ :=
    h colon enclosures behind.advance hcolon (rest_advance hbehind)
  refine ⟨behind.advance, used, after, henter, ?_, hafter, hgoes⟩
  simp only [List.length_append, List.length_cons]
  omega

-- ---------------------------------------------------------------------------
-- Enclosures
-- ---------------------------------------------------------------------------

section
variable {enclosure : Enclosure} {gap close part rest : List Char} {parts : List (List Char)}
  {first : Bool} {cursor : Cursor}

theorem next_close (hclose : Blank close)
    (h : cursor.rest = close ++ enclosure.closer :: rest) :
    ∃ after, enclosure.next first cursor = .ok (false, after) ∧ after.rest = rest := by
  have hblank : Cursor.isBlank enclosure.closer = false := by cases enclosure <;> rfl
  have hskip := rest_skipBlanks hclose hblank h
  refine ⟨cursor.skipBlanks.advance, ?_, rest_advance hskip⟩
  simp only [Enclosure.next, peek?_of_rest hskip, if_true]

theorem next_first (hgap : Blank gap) (hc : Cursor.isBlank c = false)
    (hne : c ≠ enclosure.closer) (h : cursor.rest = gap ++ c :: rest) :
    enclosure.next true cursor = enclosure.enter cursor.skipBlanks := by
  simp only [Enclosure.next, peek?_of_rest (rest_skipBlanks hgap hc h), hne, if_false, if_true]

theorem next_comma (h : cursor.rest = ',' :: rest) :
    enclosure.next false cursor = enclosure.enter cursor.advance := by
  have hcomma : ',' ≠ enclosure.closer := by cases enclosure <;> decide
  simp [Enclosure.next, skipBlanks_eq_self rfl h, peek?_of_rest h, hcomma]

theorem goes_part (hpart : PassesPart enclosure part (partsLeft gap false parts ++ rest))
    (hgap : Blank gap) (h : cursor.rest = partsLeft gap first (part :: parts) ++ rest) :
    ∃ used after, used ≤ 2 * part.length ∧ after.rest = partsLeft gap false parts ++ rest ∧
      Goes used ⟨.between first, enclosure :: enclosures, cursor⟩
        ⟨.between false, enclosure :: enclosures, after⟩ := by
  obtain ⟨start, blanks, hblanks, hnext, hstart⟩ : ∃ start blanks, Blank blanks ∧
      enclosure.next first cursor = enclosure.enter start ∧
      start.rest = blanks ++ (part ++ (partsLeft gap false parts ++ rest)) := by
    cases first with
    | true =>
      obtain ⟨c, more, rfl, hc, hne⟩ := hpart.opens
      have hfirst : cursor.rest = gap ++ c :: (more ++ (partsLeft gap false parts ++ rest)) := by
        simp [h, partsLeft_first]
      exact ⟨cursor.skipBlanks, [], List.forall_mem_nil _, next_first hgap hc hne hfirst,
        rest_skipBlanks hgap hc hfirst⟩
    | false =>
      have hlater :
          cursor.rest = ',' :: (gap ++ (part ++ (partsLeft gap false parts ++ rest))) := by
        simp [h, partsLeft_later]
      exact ⟨cursor.advance, gap, hgap, next_comma hlater, rest_advance hlater⟩
  obtain ⟨entered, used, after, henter, hused, hafter, hvalue⟩ :=
    hpart.passes blanks (enclosure :: enclosures) start hblanks hstart
  refine ⟨1 + used, after, ?_, hafter, (goes_next (hnext.trans henter)).trans hvalue⟩
  omega

theorem goes_parts
    (hparts : ∀ part ∈ parts, ∀ rest, EndsNumber rest → PassesPart enclosure part rest)
    (hgap : Blank gap) (hclose : Blank close)
    (h : cursor.rest = partsLeft gap first parts ++ (close ++ enclosure.closer :: rest)) :
    ∃ used after, used ≤ 2 * (partsLeft gap first parts).length + 1 ∧ after.rest = rest ∧
      Goes used ⟨.between first, enclosure :: enclosures, cursor⟩
        ⟨.between false, enclosures, after⟩ := by
  induction parts generalizing cursor first with
  | nil =>
    rw [partsLeft_nil, List.nil_append] at h
    obtain ⟨after, hnext, hafter⟩ := next_close hclose h
    exact ⟨1, after, Nat.le_add_left .., hafter, goes_close hnext⟩
  | cons part parts ih =>
    obtain ⟨hpart, hparts⟩ := List.forall_mem_cons.1 hparts
    have hcloser : enclosure.closer.isDigit = false ∧ enclosure.closer ≠ '.' ∧
        enclosure.closer ≠ 'e' ∧ enclosure.closer ≠ 'E' := by cases enclosure <;> decide
    obtain ⟨used, behind, hused, hbehind, hvalue⟩ :=
      goes_part (hpart _ (endsNumber_parts hclose hcloser)) hgap h
    obtain ⟨later, after, hlater, hafter, hrest⟩ := ih hparts hbehind
    refine ⟨used + later, after, ?_, hafter, hvalue.trans hrest⟩
    have hlength : part.length + (partsLeft gap false parts).length ≤
        (partsLeft gap first (part :: parts)).length := by
      cases first with
      | true => simp [partsLeft_first]
      | false =>
        simp only [partsLeft_later, List.length_cons, List.length_append]
        omega
    omega

theorem passesValue_parts (enclosure : Enclosure)
    (hparts : ∀ part ∈ parts, ∀ rest, EndsNumber rest → PassesPart enclosure part rest)
    (hgap : Blank gap) (hclose : Blank close) :
    PassesValue (enclosure.opener :: (partsLeft gap true parts ++ (close ++ [enclosure.closer])))
      rest := by
  intro blanks enclosures cursor hb hrest
  have hopener : Cursor.isBlank enclosure.opener = false := by cases enclosure <;> rfl
  have hskip := rest_skipBlanks hb hopener hrest
  have hinside : cursor.skipBlanks.advance.rest =
      partsLeft gap true parts ++ (close ++ enclosure.closer :: rest) := by
    rw [rest_advance hskip]
    simp
  obtain ⟨used, after, hused, hafter, hgoes⟩ := goes_parts hparts hgap hclose hinside
  refine ⟨1 + used, after, ?_, hafter, (goes_open (peek?_of_rest hskip)).trans hgoes⟩
  simp only [List.length_cons, List.length_append]
  omega

end

theorem passesValue_layout (value : Json) (spacing : Spacing) (depth : Nat) :
    ∀ rest, EndsNumber rest → PassesValue (value.layout spacing depth) rest := by
  induction value using induct generalizing depth with
  | arr items ih =>
    intro rest _
    obtain ⟨close, hclose, hlayout⟩ := layout_arr spacing depth items
    rw [hlayout]
    refine passesValue_parts .list (List.forall_mem_map.2 fun item hitem rest he => ?_)
      (spacing.blank_gap (depth + 1)) hclose
    exact passesPart_item (layout_opens item spacing _) (ih item hitem _ rest he)
  | obj members ih =>
    intro rest _
    obtain ⟨close, hclose, hlayout⟩ := layout_obj spacing depth members
    rw [hlayout]
    refine passesValue_parts .object (List.forall_mem_map.2 fun member hmember rest he => ?_)
      (spacing.blank_gap (depth + 1)) hclose
    exact passesPart_member member.1 spacing.blank_colon (ih member hmember _ rest he)
  | _ =>
    intro rest he
    rw [layout_scalar (by simp) (by simp)]
    exact passesValue_scalar rfl he

/-- Passing over a value has steps enough for any value that is printed. -/
theorem passes_layout (value : Json) (hb : Blank blanks) (he : EndsNumber rest) :
    Passes skipValue (blanks ++ value.layout spacing depth) rest := by
  intro cursor hrest
  rw [List.append_assoc] at hrest
  obtain ⟨used, after, hused, hafter, hgoes⟩ :=
    passesValue_layout value spacing depth rest he blanks [] cursor hb hrest
  obtain ⟨steps, hsteps⟩ : ∃ steps, 2 * cursor.rest.length + 2 = steps + 1 + used := by
    have hlength : (value.layout spacing depth).length ≤ cursor.rest.length := by
      simp only [hrest, List.length_append]
      omega
    exact ⟨2 * cursor.rest.length + 1 - used, by omega⟩
  refine ⟨after, ?_, hafter⟩
  have hfinish := hgoes (steps + 1)
  rw [← hsteps] at hfinish
  exact hfinish

end AccessPolicy.Json
