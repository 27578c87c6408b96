import Mathlib.Data.List.Forall2
import AccessPolicy.Proofs.Json.Layout
import AccessPolicy.Proofs.Json.NumberText
import AccessPolicy.Proofs.Lookup

/-!
# Printed values read back

A layout of a value without binary64 numbers reads back as that value, if the reader may nest as
deep as the value does (`reads_layout`). So a value is determined by its text
(`compact_injective`), and a printed object reads back with its members in the order of their keys
(`read_pretty_obj`).
-/

namespace AccessPolicy.Json

-- ---------------------------------------------------------------------------
-- Between the elements of containers
-- ---------------------------------------------------------------------------

section
variable {cursor : Cursor} {blanks gap close text rest : List Char} {parts : List (List Char)}
  {first : Bool}

theorem endsNumber_blanks (hb : Blank blanks) (hc : EndsNumber rest) :
    EndsNumber (blanks ++ rest) := by
  cases blanks with
  | nil => exact hc
  | cons c more =>
    intro d hd
    obtain rfl := Option.some.inj hd
    have hblank := hb c List.mem_cons_self
    simp only [Cursor.isBlank, Bool.or_eq_true, decide_eq_true_eq] at hblank
    rcases hblank with ((rfl | rfl) | rfl) | rfl <;> decide

theorem endsNumber_cons (hc : c.isDigit = false ∧ c ≠ '.' ∧ c ≠ 'e' ∧ c ≠ 'E') :
    EndsNumber (c :: rest) := by
  intro d hd
  obtain rfl := Option.some.inj hd
  exact hc

theorem nextElement_close (hb : Blank blanks) (h : cursor.rest = blanks ++ ']' :: rest) :
    ∃ after : Cursor, nextElement first cursor = .ok (false, after) ∧ after.rest = ']' :: rest := by
  have hskip := rest_skipBlanks hb rfl h
  refine ⟨cursor.skipBlanks, ?_, hskip⟩
  rw [nextElement, peek?_of_rest hskip]
  rfl

theorem nextElement_first (hb : Blank blanks) (hc : Cursor.isBlank c = false) (hne : c ≠ ']')
    (h : cursor.rest = blanks ++ c :: rest) :
    ∃ after : Cursor, nextElement true cursor = .ok (true, after) ∧ after.rest = c :: rest := by
  have hskip := rest_skipBlanks hb hc h
  refine ⟨cursor.skipBlanks, ?_, hskip⟩
  simp only [nextElement, peek?_of_rest hskip, hne, if_false, if_true]

theorem nextElement_comma (hb : Blank blanks) (hc : Cursor.isBlank c = false) (hne : c ≠ ']')
    (h : cursor.rest = ',' :: (blanks ++ c :: rest)) :
    ∃ after : Cursor, nextElement false cursor = .ok (true, after) ∧ after.rest = c :: rest := by
  have hskip := rest_skipBlanks hb hc (rest_advance h)
  refine ⟨cursor.advance.skipBlanks, ?_, hskip⟩
  simp only [nextElement, skipBlanks_eq_self rfl h, peek?_of_rest h, peek?_of_rest hskip]
  simp

theorem nextKey_close (hb : Blank blanks) (h : cursor.rest = blanks ++ '\x7d' :: rest) :
    ∃ after : Cursor, nextKey first cursor = .ok (false, after) ∧ after.rest = '\x7d' :: rest := by
  have hskip := rest_skipBlanks hb rfl h
  refine ⟨cursor.skipBlanks, ?_, hskip⟩
  rw [nextKey, peek?_of_rest hskip]
  rfl

theorem nextKey_first (hb : Blank blanks) (h : cursor.rest = blanks ++ '"' :: rest) :
    ∃ after : Cursor, nextKey true cursor = .ok (true, after) ∧ after.rest = '"' :: rest := by
  have hskip := rest_skipBlanks hb rfl h
  refine ⟨cursor.skipBlanks, ?_, hskip⟩
  rw [nextKey, peek?_of_rest hskip]
  rfl

theorem nextKey_comma (hb : Blank blanks) (h : cursor.rest = ',' :: (blanks ++ '"' :: rest)) :
    ∃ after : Cursor, nextKey false cursor = .ok (true, after) ∧ after.rest = '"' :: rest := by
  have hskip := rest_skipBlanks hb rfl (rest_advance h)
  refine ⟨cursor.advance.skipBlanks, ?_, hskip⟩
  rw [nextKey, skipBlanks_eq_self rfl h, peek?_of_rest h]
  simp only [peek?_of_rest hskip]
  rfl

theorem readColon_of_rest (h : cursor.rest = ':' :: rest) :
    readColon cursor = .ok ((), cursor.advance) := by
  rw [readColon, skipBlanks_eq_self rfl h, peek?_of_rest h]
  rfl

/-- A text starts like a value: with no blank, and not as an array ends. -/
def Opens (text : List Char) : Prop :=
  ∃ c more, text = c :: more ∧ Cursor.isBlank c = false ∧ c ≠ ']'

theorem nextElement_part {part : List Char} (hopens : Opens part) (hgap : Blank gap)
    (h : cursor.rest = partsLeft gap first (part :: parts) ++ rest) :
    ∃ after : Cursor, nextElement first cursor = .ok (true, after) ∧
      after.rest = part ++ (partsLeft gap false parts ++ rest) := by
  obtain ⟨c, more, rfl, hc, hne⟩ := hopens
  cases first with
  | true =>
    have hfirst : cursor.rest = gap ++ c :: (more ++ (partsLeft gap false parts ++ rest)) := by
      simp [h, partsLeft_first]
    exact nextElement_first hgap hc hne hfirst
  | false =>
    have hlater :
        cursor.rest = ',' :: (gap ++ c :: (more ++ (partsLeft gap false parts ++ rest))) := by
      simp [h, partsLeft_later]
    exact nextElement_comma hgap hc hne hlater

theorem nextKey_part {key : String} (hgap : Blank gap)
    (h : cursor.rest = partsLeft gap first ((stringChars key ++ text) :: parts) ++ rest) :
    ∃ after : Cursor, nextKey first cursor = .ok (true, after) ∧
      after.rest = stringChars key ++ (text ++ (partsLeft gap false parts ++ rest)) := by
  cases first with
  | true =>
    have hfirst : cursor.rest =
        gap ++ (stringChars key ++ (text ++ (partsLeft gap false parts ++ rest))) := by
      simp [h, partsLeft_first]
    exact nextKey_first hgap hfirst
  | false =>
    have hlater : cursor.rest =
        ',' :: (gap ++ (stringChars key ++ (text ++ (partsLeft gap false parts ++ rest)))) := by
      simp [h, partsLeft_later]
    exact nextKey_comma hgap hlater

theorem endsNumber_parts (hclose : Blank close)
    (hcloser : closer.isDigit = false ∧ closer ≠ '.' ∧ closer ≠ 'e' ∧ closer ≠ 'E') :
    EndsNumber (partsLeft gap false parts ++ (close ++ closer :: rest)) := by
  cases parts with
  | nil =>
    rw [partsLeft_nil, List.nil_append]
    exact endsNumber_blanks hclose (endsNumber_cons hcloser)
  | cons part parts =>
    rw [partsLeft_later]
    exact endsNumber_cons (by decide)

end

-- ---------------------------------------------------------------------------
-- Elements and members
-- ---------------------------------------------------------------------------

section
variable {reader : Cursor → Outcome (α × Cursor)} {spacing : Spacing} {cursor : Cursor}
  {first : Bool} {close rest : List Char}

/-- A reader of single values goes past blanks and the layout of a value, and makes of it a
result. -/
def ReadsLayout (reader : Cursor → Outcome (α × Cursor)) (spacing : Spacing) (depth : Nat)
    (value : Json) (result : α) : Prop :=
  ∀ blanks rest, Blank blanks → EndsNumber rest →
    Reads reader (blanks ++ value.layout spacing depth) rest result

def ReadsMember (reader : Cursor → Outcome (α × Cursor)) (spacing : Spacing) (depth : Nat)
    (member : String × Json) (entry : String × α) : Prop :=
  member.1 = entry.1 ∧ ReadsLayout reader spacing depth member.2 entry.2

theorem readElements_items {reader : Cursor → Outcome (Json × Cursor)} {items : List Json}
    (hread : ∀ item ∈ items, ReadsLayout reader spacing depth item item)
    (hopens : ∀ item ∈ items, Opens (item.layout spacing depth)) (hb : Blank close)
    (hs : items.length < steps)
    (h : cursor.rest = itemsLeft spacing depth first items ++ (close ++ ']' :: rest)) :
    ∃ after : Cursor, readElements reader steps first cursor = .ok (items, after) ∧
      after.rest = rest := by
  obtain ⟨steps, rfl⟩ := Nat.exists_eq_succ_of_ne_zero (Nat.ne_zero_of_lt hs)
  induction items generalizing steps cursor first with
  | nil =>
    rw [itemsLeft, List.map_nil, partsLeft_nil, List.nil_append] at h
    obtain ⟨closing, hnext, hclosing⟩ := nextElement_close hb h
    refine ⟨closing.advance, ?_, rest_advance hclosing⟩
    rw [readElements, hnext]
    rfl
  | cons item items ih =>
    obtain ⟨hitem, hitems⟩ := List.forall_mem_cons.1 hread
    obtain ⟨hopen, hopens⟩ := List.forall_mem_cons.1 hopens
    obtain ⟨before, hnext, hbefore⟩ := nextElement_part hopen (spacing.blank_gap depth) h
    obtain ⟨after, hvalue, hafter⟩ :=
      hitem [] _ (List.forall_mem_nil _) (endsNumber_parts hb (by decide)) before hbefore
    have hlater : items.length < steps := Nat.lt_of_succ_lt_succ hs
    obtain ⟨steps, rfl⟩ := Nat.exists_eq_succ_of_ne_zero (Nat.ne_zero_of_lt hlater)
    obtain ⟨last, hrest, hlast⟩ := ih hitems hopens hafter steps hlater
    refine ⟨last, ?_, hlast⟩
    rw [readElements, hnext]
    simp [bind, Except.bind, hvalue, hrest]

/-- One member is read: what precedes its key, the key, the colon and the value. -/
theorem readMember {member : String × Json}
    (hvalue : ReadsLayout reader spacing depth member.2 result) (hb : Blank close)
    (h : cursor.rest =
      membersLeft spacing depth first (member :: members) ++ (close ++ '\x7d' :: rest)) :
    ∃ before colon start after : Cursor, nextKey first cursor = .ok (true, before) ∧
      readString before.advance = .ok (member.1, colon) ∧ readColon colon = .ok ((), start) ∧
      reader start = .ok (result, after) ∧
      after.rest = membersLeft spacing depth false members ++ (close ++ '\x7d' :: rest) := by
  obtain ⟨before, hnext, hbefore⟩ := nextKey_part (spacing.blank_gap depth) h
  obtain ⟨colon, hkey, hcolon⟩ := reads_string member.1 before.advance (rest_advance hbefore)
  obtain ⟨after, hread, hafter⟩ := hvalue spacing.colon _ spacing.blank_colon
    (endsNumber_parts hb (by decide)) colon.advance (rest_advance hcolon)
  exact ⟨before, colon, colon.advance, after, hnext, hkey, readColon_of_rest hcolon, hread, hafter⟩

theorem nextKey_members_nil (hb : Blank close)
    (h : cursor.rest = membersLeft spacing depth first [] ++ (close ++ '\x7d' :: rest)) :
    ∃ after : Cursor, nextKey first cursor = .ok (false, after) ∧ after.rest = '\x7d' :: rest := by
  rw [membersLeft, List.map_nil, partsLeft_nil, List.nil_append] at h
  exact nextKey_close hb h

theorem readMembers_members {members : Entries Json} {entries : Entries α}
    (hread : List.Forall₂ (ReadsMember reader spacing depth) members entries) (hb : Blank close)
    (hs : members.length < steps)
    (h : cursor.rest = membersLeft spacing depth first members ++ (close ++ '\x7d' :: rest)) :
    ∃ after : Cursor, readMembers reader steps first cursor = .ok (entries, after) ∧
      after.rest = rest := by
  obtain ⟨steps, rfl⟩ := Nat.exists_eq_succ_of_ne_zero (Nat.ne_zero_of_lt hs)
  induction hread generalizing steps cursor first with
  | nil =>
    obtain ⟨closing, hnext, hclosing⟩ := nextKey_members_nil hb h
    refine ⟨closing.advance, ?_, rest_advance hclosing⟩
    rw [readMembers, hnext]
    rfl
  | @cons member entry members entries hmember _ ih =>
    obtain ⟨hsame, hmember⟩ := hmember
    obtain ⟨before, colon, start, after, hnext, hkey, hcolon, hvalue, hafter⟩ :=
      readMember hmember hb h
    have hlater : members.length < steps := Nat.lt_of_succ_lt_succ hs
    obtain ⟨steps, rfl⟩ := Nat.exists_eq_succ_of_ne_zero (Nat.ne_zero_of_lt hlater)
    obtain ⟨last, hrest, hlast⟩ := ih hafter steps hlater
    refine ⟨last, ?_, hlast⟩
    rw [readMembers, hnext]
    simp [bind, Except.bind, hkey, hcolon, hvalue, hrest, hsame]

end

-- ---------------------------------------------------------------------------
-- Words, numbers and strings
-- ---------------------------------------------------------------------------

theorem reads_ident (value : Json) (word : List Char) :
    Reads (readIdent value word) word rest value := by
  induction word with
  | nil => exact fun cursor h => ⟨cursor, rfl, h⟩
  | cons letter word ih =>
    intro cursor h
    rw [readIdent, peek?_of_rest h]
    simp only [if_true]
    exact ih cursor.advance (rest_advance h)

def ReadsScalar (c : Char) (more : List Char) (value : Json) : Prop :=
  ∀ rest, EndsNumber rest → Reads (readScalar c) (c :: more) rest value

theorem readsScalar_word
    (hread : ∀ cursor, readScalar c cursor = readIdent value word cursor.advance) :
    ReadsScalar c word value := by
  intro rest _ cursor h
  rw [hread]
  exact reads_ident value word cursor.advance (rest_advance h)

theorem readsScalar_string (text : String) :
    ReadsScalar '"' (escapeChars text.toList ++ ['"']) (.str text) := by
  intro rest _ cursor h
  obtain ⟨after, hread, hafter⟩ := reads_string text cursor.advance (rest_advance h)
  refine ⟨after, ?_, hafter⟩
  show (readString cursor.advance).map _ = _
  rw [hread]
  rfl

theorem readsScalar_natural (hn : n ≤ greatestWord) (hdigits : Nat.toDigits 10 n = c :: more) :
    ReadsScalar c more (.int n) := by
  have hc : c.isDigit = true := isDigit_of_mem_toDigits (hdigits ▸ List.mem_cons_self)
  have hne {d : Char} (hd : d.isDigit = false) : c ≠ d := by
    rintro rfl
    exact Bool.false_ne_true (hd.symm.trans hc)
  intro rest he cursor h
  have hread : readScalar c cursor = readNumber false cursor := by
    simp [readScalar, @hne 'n' rfl, @hne 't' rfl, @hne 'f' rfl, @hne '-' rfl, hc]
  rw [hread]
  exact reads_number hn he (fun _ => rfl) cursor (hdigits ▸ h)

theorem readsScalar_negative (hn : n < 0x8000000000000000) :
    ReadsScalar '-' (Nat.toDigits 10 (n + 1)) (.int (.negSucc n)) := by
  have hword : n + 1 ≤ greatestWord := by rw [greatestWord]; omega
  have hwhole (after : Cursor) :
      wholeNumber true (n + 1) after = .ok (.int (.negSucc n), after) := by
    rw [wholeNumber, if_pos rfl, if_pos ⟨Nat.le_add_left .., hn⟩]
    rfl
  intro rest he cursor h
  exact reads_number hword he hwhole cursor.advance (rest_advance h)

theorem exists_readsScalar (h : Plain value)
    (hs : ∀ items, value ≠ .arr items) (ho : ∀ members, value ≠ .obj members) :
    ∃ c more, scalarChars value = c :: more ∧ ReadsScalar c more value := by
  cases value with
  | null => exact ⟨_, _, rfl, readsScalar_word fun _ => rfl⟩
  | bool value => cases value <;> exact ⟨_, _, rfl, readsScalar_word fun _ => rfl⟩
  | int value =>
    obtain ⟨hlow, hhigh⟩ := h.wellFormed
    cases value with
    | ofNat n =>
      obtain ⟨c, more, hdigits⟩ := List.exists_cons_of_ne_nil (@Nat.toDigits_ne_nil n 10)
      have hn : n ≤ greatestWord := by
        rw [Int.ofNat_eq_natCast] at hhigh
        rw [greatestWord]
        omega
      exact ⟨c, more, hdigits, readsScalar_natural hn hdigits⟩
    | negSucc n => exact ⟨_, _, rfl, readsScalar_negative (by omega)⟩
  | float _ => cases h.floatFree
  | str text => exact ⟨_, _, rfl, readsScalar_string text⟩
  | arr items => exact absurd rfl (hs items)
  | obj members => exact absurd rfl (ho members)

theorem layout_scalar (hs : ∀ items, value ≠ .arr items) (ho : ∀ members, value ≠ .obj members) :
    value.layout spacing depth = scalarChars value := by
  cases value with
  | arr items => exact absurd rfl (hs items)
  | obj members => exact absurd rfl (ho members)
  | _ => simp [layout]

theorem layout_opens (value : Json) (spacing : Spacing) (depth : Nat) :
    Opens (value.layout spacing depth) := by
  cases value with
  | arr items => cases items <;> exact ⟨_, _, rfl, rfl, by decide⟩
  | obj members => cases members <;> exact ⟨_, _, rfl, rfl, by decide⟩
  | _ =>
    rw [layout_scalar (by simp) (by simp)]
    obtain ⟨c, more, hchars, hc⟩ := scalarChars_opens _
    exact ⟨c, more, hchars, hc.not_blank, hc.not_bracket.2⟩

-- ---------------------------------------------------------------------------
-- Whole values
-- ---------------------------------------------------------------------------

mutual
def nesting : Json → Nat
  | .arr items => nestingItems items + 1
  | .obj members => nestingMembers members + 1
  | _ => 0
def nestingItems : List Json → Nat
  | [] => 0
  | item :: rest => max item.nesting (nestingItems rest)
def nestingMembers : List (String × Json) → Nat
  | [] => 0
  | (_, value) :: rest => max value.nesting (nestingMembers rest)
end

theorem nesting_le_of_mem (h : item ∈ items) : item.nesting ≤ nestingItems items := by
  induction items with
  | nil => cases h
  | cons first rest ih =>
    rw [nestingItems]
    rcases List.mem_cons.1 h with rfl | h
    · exact Nat.le_max_left ..
    · exact Nat.le_trans (ih h) (Nat.le_max_right ..)

theorem nesting_le_of_mem_members {members : Entries Json} (h : member ∈ members) :
    member.2.nesting ≤ nestingMembers members := by
  induction members with
  | nil => cases h
  | cons first rest ih =>
    rw [nestingMembers]
    rcases List.mem_cons.1 h with rfl | h
    · exact Nat.le_max_left ..
    · exact Nat.le_trans (ih h) (Nat.le_max_right ..)

theorem reads_scalar (hb : Blank blanks) (he : EndsNumber rest) (hc : OpensScalar c)
    (h : ReadsScalar c more value) :
    Reads (readValue limit) (blanks ++ c :: more) rest value := by
  intro cursor hrest
  rw [List.append_assoc, List.cons_append] at hrest
  have hskip := rest_skipBlanks hb hc.not_blank hrest
  obtain ⟨after, hread, hafter⟩ := h rest he cursor.skipBlanks hskip
  refine ⟨after, ?_, hafter⟩
  unfold readValue
  simp only [peek?_of_rest hskip, hc.not_bracket.1, hc.not_brace, if_false]
  exact hread

/-- The steps that reading a container has are enough for its parts. -/
theorem length_lt_of_enclosed {cursor : Cursor} {parts : List (List Char)}
    (h : cursor.rest = opener :: (partsLeft gap first parts ++ (close ++ closer :: rest))) :
    parts.length < cursor.rest.length := by
  have hle := length_le_partsLeft gap first parts
  simp only [h, List.length_cons, List.length_append]
  omega

theorem rest_skipBlanks_layout {value : Json} {cursor : Cursor} (hb : Blank blanks)
    (h : cursor.rest = blanks ++ value.layout spacing depth ++ rest) :
    cursor.skipBlanks.rest = value.layout spacing depth ++ rest := by
  obtain ⟨c, more, hmore, hc, -⟩ := layout_opens value spacing depth
  rw [List.append_assoc] at h
  rw [hmore] at h ⊢
  exact rest_skipBlanks hb hc h

theorem reads_array
    (hread : ∀ item ∈ items, ReadsLayout (readValue limit) spacing (depth + 1) item item) :
    ReadsLayout (readValue (limit + 1)) spacing depth (arr items) (arr items) := by
  intro blanks rest hb _ cursor h
  have hskip := rest_skipBlanks_layout hb h
  obtain ⟨close, hclose, hlayout⟩ := layout_arr spacing depth items
  rw [hlayout, List.cons_append, List.append_assoc, List.append_assoc] at hskip
  have hs : items.length < cursor.skipBlanks.rest.length := by
    simpa using length_lt_of_enclosed hskip
  obtain ⟨after, hitems, hafter⟩ := readElements_items hread
    (fun item _ => layout_opens item spacing _) hclose hs (rest_advance hskip)
  refine ⟨after, ?_, hafter⟩
  unfold readValue
  simp only [peek?_of_rest hskip, if_true, hitems]
  rfl

theorem readMembers_object {members : Entries Json} {entries : Entries α} {cursor : Cursor}
    (hread : List.Forall₂ (ReadsMember reader spacing (depth + 1)) members entries)
    (h : cursor.rest = (obj members).layout spacing depth ++ rest) :
    cursor.peek? = some '\x7b' ∧
    ∃ after : Cursor, readMembers reader cursor.rest.length true cursor.advance =
      .ok (entries, after) ∧ after.rest = rest := by
  obtain ⟨close, hclose, hlayout⟩ := layout_obj spacing depth members
  rw [hlayout, List.cons_append, List.append_assoc, List.append_assoc] at h
  have hs : members.length < cursor.rest.length := by
    simpa using length_lt_of_enclosed h
  exact ⟨peek?_of_rest h, readMembers_members hread hclose hs (rest_advance h)⟩

/-- Of an object those members are read that count, in the order of their keys. -/
theorem reads_members {members : Entries Json}
    (hread : ∀ member ∈ members,
      ReadsLayout (readValue limit) spacing (depth + 1) member.2 member.2)
    (hb : Blank blanks) :
    Reads (readValue (limit + 1)) (blanks ++ (obj members).layout spacing depth) rest
      (ofMembers members) := by
  intro cursor h
  obtain ⟨hpeek, after, hmembers, hafter⟩ := readMembers_object
    (List.forall₂_same.2 fun member hmember => ⟨rfl, hread member hmember⟩)
    (rest_skipBlanks_layout hb h)
  refine ⟨after, ?_, hafter⟩
  have hbrace : '\x7b' ≠ '[' := by decide
  unfold readValue
  simp only [hpeek, hbrace, if_true, if_false, hmembers]
  rfl

theorem reads_object {members : Entries Json} (hascending : members.Ascending)
    (hread : ∀ member ∈ members,
      ReadsLayout (readValue limit) spacing (depth + 1) member.2 member.2) :
    ReadsLayout (readValue (limit + 1)) spacing depth (obj members) (obj members) := by
  intro blanks rest hb _
  have h : Reads (readValue (limit + 1)) (blanks ++ (obj members).layout spacing depth) rest
      (ofMembers members) := reads_members hread hb
  rwa [ofMembers, Entries.ordered_eq_self hascending] at h

/-- A layout reads back, whatever blanks precede it and whatever else than a number follows it. -/
theorem reads_layout (h : Plain value) (hdeep : value.nesting ≤ limit) :
    ReadsLayout (readValue limit) spacing depth value value := by
  -- each container takes one from the limit, which the nesting of its parts stays within
  induction value using induct generalizing limit depth with
  | arr items ih =>
    obtain ⟨limit, rfl⟩ := Nat.exists_eq_succ_of_ne_zero (Nat.ne_zero_of_lt hdeep)
    have hitems := plain_arr.1 h
    have hinner : nestingItems items ≤ limit := Nat.le_of_succ_le_succ hdeep
    exact reads_array fun item hitem =>
      ih item hitem (hitems item hitem) (Nat.le_trans (nesting_le_of_mem hitem) hinner)
  | obj members ih =>
    obtain ⟨limit, rfl⟩ := Nat.exists_eq_succ_of_ne_zero (Nat.ne_zero_of_lt hdeep)
    obtain ⟨hascending, hmembers⟩ := plain_obj.1 h
    have hinner : nestingMembers members ≤ limit := Nat.le_of_succ_le_succ hdeep
    exact reads_object hascending fun member hmember =>
      ih member hmember (hmembers member hmember)
        (Nat.le_trans (nesting_le_of_mem_members hmember) hinner)
  | _ =>
    intro blanks rest hb he
    rw [layout_scalar (by simp) (by simp)]
    obtain ⟨c, more, hchars, hread⟩ := exists_readsScalar h (by simp) (by simp)
    rw [hchars]
    exact reads_scalar hb he (opensScalar_of_scalarChars hchars) hread

theorem readValue_compactChars (h : Plain value) (hdeep : value.nesting ≤ limit)
    (position : Position) :
    ∃ after : Cursor, readValue limit ⟨value.compactChars, position⟩ = .ok (value, after) ∧
      after.rest = [] := by
  have hlayout : ReadsLayout (readValue limit) .none 0 value value := reads_layout h hdeep
  have hend : EndsNumber [] := fun _ hc => nomatch hc
  exact hlayout [] [] (List.forall_mem_nil _) hend _ (by simp [compactChars_eq_layout value 0])

theorem compact_injective (ha : Plain a) (hb : Plain b) (h : a.compact = b.compact) : a = b := by
  obtain ⟨_, hreada, -⟩ := readValue_compactChars ha (Nat.le_max_left _ b.nesting) ⟨1, 0⟩
  obtain ⟨_, hreadb, -⟩ := readValue_compactChars hb (Nat.le_max_right a.nesting _) ⟨1, 0⟩
  rw [String.ofList_injective h, hreadb] at hreada
  exact (Prod.ext_iff.1 (Except.ok.inj hreada)).1.symm

-- ---------------------------------------------------------------------------
-- Texts that are read to their end
-- ---------------------------------------------------------------------------

theorem readEnd_of_rest {cursor : Cursor} (h : cursor.rest = []) :
    readEnd cursor = .ok ((), cursor.skipBlanks) := by
  have hskip : cursor.skipBlanks.peek? = none := by
    rw [Cursor.skipBlanks, Cursor.dropWhile, Cursor.peek?, h]
    rfl
  simp only [readEnd, hskip]

theorem read_of_reads (h : Reads (readValue deepest) text [] value) :
    read (String.ofList text) = .ok value := by
  obtain ⟨after, hvalue, hafter⟩ := h (Cursor.start (String.ofList text)) (by simp [Cursor.start])
  simp only [read, hvalue, bind, Except.bind, readEnd_of_rest hafter]

theorem read_pretty_obj {members : Entries Json} (hplain : ∀ member ∈ members, member.2.Plain)
    (hdeep : (obj members).nesting ≤ deepest) :
    read (obj members).pretty = .ok (ofMembers members) := by
  rw [pretty, prettyChars_eq_layout]
  apply read_of_reads
  -- the object takes one from the limit, and its members stay within the rest
  obtain ⟨limit, hlimit⟩ : ∃ limit, deepest = limit + 1 := ⟨_, rfl⟩
  rw [hlimit] at hdeep ⊢
  have hread : ∀ member ∈ members, ReadsLayout (readValue limit) .lines 1 member.2 member.2 :=
    fun member hmember => reads_layout (hplain member hmember)
      (Nat.le_trans (nesting_le_of_mem_members hmember) (Nat.le_of_succ_le_succ hdeep))
  have hblank : Blank [] := List.forall_mem_nil _
  exact reads_members hread hblank

end AccessPolicy.Json
