import AccessPolicy.Json.Reader
import AccessPolicy.Proofs.Json.Structure

/-!
# Values that are read are well-formed

Integers keep to words and objects come out with ascending keys (`read_wellFormed`).
-/

namespace AccessPolicy.Json

def Yields (p : α → Prop) (step : Outcome (α × Cursor)) : Prop :=
  ∀ value after, step = .ok (value, after) → p value

section
variable {p : α → Prop} {cursor : Cursor}

theorem yields_ok (h : p value) : Yields p (.ok (value, cursor)) := by
  rintro _ _ ⟨⟩
  exact h

theorem yields_error {failure : Failure} : Yields p (.error failure) := by
  rintro _ _ ⟨⟩

theorem yields_fail : Yields p (cursor.fail cause) := yields_error

theorem yields_failAtByte : Yields p (cursor.failAtByte cause) := yields_error

theorem Yields.bind {q : β → Prop} {step : Outcome (α × Cursor)}
    {next : α × Cursor → Outcome (β × Cursor)} (h : Yields p step)
    (hnext : ∀ value after, p value → Yields q (next (value, after))) :
    Yields q (step >>= next) := by
  intro value after heq
  cases hstep : step with
  | error failure => rw [hstep] at heq; cases heq
  | ok result =>
    rw [hstep] at heq
    exact hnext result.1 result.2 (h _ _ hstep) value after heq

theorem yields_true {step : Outcome (α × Cursor)} : Yields (fun _ => True) step :=
  fun _ _ _ => trivial

end

-- ---------------------------------------------------------------------------
-- Numbers
-- ---------------------------------------------------------------------------

theorem absorb_le (hs : significand ≤ greatestWord) :
    (absorb significand digits).1 ≤ greatestWord := by
  induction digits generalizing significand with
  | nil => exact hs
  | cons c rest ih =>
    rw [absorb]
    split
    · exact hs
    · next hfits => exact ih (Nat.le_of_not_lt hfits)

theorem yields_wholeNumber (hs : significand ≤ greatestWord) :
    Yields WellFormed (wholeNumber negative significand cursor) := by
  rw [greatestWord] at hs
  rw [wholeNumber]
  split
  · split
    · exact yields_ok (by rw [WellFormed]; omega)
    · exact yields_ok trivial
  · exact yields_ok (by rw [WellFormed]; omega)

theorem yields_floatOf : Yields WellFormed (floatOf negative significand exponent cursor) := by
  rw [floatOf]
  split
  · exact yields_ok trivial
  · exact yields_fail

theorem yields_readExponent :
    Yields WellFormed (readExponent negative significand scale cursor) := by
  unfold readExponent
  dsimp only
  repeat' split
  all_goals first
    | exact yields_fail
    | exact yields_failAtByte
    | exact yields_floatOf
    | exact yields_ok trivial

theorem yields_readFraction :
    Yields WellFormed (readFraction negative significand scale cursor) := by
  unfold readFraction readScale
  dsimp only
  repeat' split
  all_goals first
    | exact yields_fail
    | exact yields_failAtByte
    | exact yields_readExponent
    | exact yields_floatOf

theorem yields_readNumber : Yields WellFormed (readNumber negative cursor) := by
  have hword {digits : List Char} : (absorb 0 digits).1 ≤ greatestWord := absorb_le (Nat.zero_le _)
  unfold readNumber
  dsimp only
  repeat' split
  all_goals first
    | exact yields_fail
    | exact yields_failAtByte
    | exact yields_readFraction
    | exact yields_readExponent
    | exact yields_wholeNumber hword
    | exact yields_floatOf

-- ---------------------------------------------------------------------------
-- Values
-- ---------------------------------------------------------------------------

theorem yields_readIdent (h : WellFormed value) :
    Yields WellFormed (readIdent value word cursor) := by
  induction word generalizing cursor with
  | nil => exact yields_ok h
  | cons letter rest ih =>
    rw [readIdent]
    split
    · exact yields_fail
    · split
      · exact ih
      · exact yields_failAtByte

theorem yields_readScalar : Yields WellFormed (readScalar first cursor) := by
  unfold readScalar
  repeat' split
  all_goals first
    | exact yields_readIdent trivial
    | exact yields_readNumber
    | exact yields_failAtByte
    | skip
  -- what is left is a string
  rintro value after heq
  cases hread : readString cursor.advance with
  | error failure => rw [hread] at heq; cases heq
  | ok result =>
    rw [hread] at heq
    cases heq
    trivial

theorem yields_readElements {item : Cursor → Outcome (Json × Cursor)}
    (hitem : ∀ cursor, Yields WellFormed (item cursor)) :
    Yields (fun items => ∀ value ∈ items, value.WellFormed)
      (readElements item steps first cursor) := by
  induction steps generalizing first cursor with
  | zero => exact yields_fail
  | succ steps ih =>
    rw [readElements]
    refine yields_true.bind fun more cursor _ => ?_
    dsimp only
    split
    · refine (hitem cursor).bind fun value cursor hvalue => ?_
      exact ih.bind fun rest cursor hrest => yields_ok (List.forall_mem_cons.2 ⟨hvalue, hrest⟩)
    · exact yields_ok (List.forall_mem_nil _)

theorem yields_readMembers {item : Cursor → Outcome (Json × Cursor)}
    (hitem : ∀ cursor, Yields WellFormed (item cursor)) :
    Yields (fun members : Entries Json => ∀ member ∈ members, member.2.WellFormed)
      (readMembers item steps first cursor) := by
  induction steps generalizing first cursor with
  | zero => exact yields_fail
  | succ steps ih =>
    rw [readMembers]
    refine yields_true.bind fun more cursor _ => ?_
    dsimp only
    split
    · refine yields_true.bind fun key cursor _ => ?_
      refine yields_true.bind fun _ cursor _ => ?_
      refine (hitem cursor).bind fun value cursor hvalue => ?_
      exact ih.bind fun rest cursor hrest => yields_ok (List.forall_mem_cons.2 ⟨hvalue, hrest⟩)
    · exact yields_ok (List.forall_mem_nil _)

theorem yields_readValue : Yields WellFormed (readValue depth cursor) := by
  induction depth generalizing cursor with
  | zero =>
    unfold readValue
    dsimp only
    repeat' split
    all_goals first
      | exact yields_fail
      | exact yields_failAtByte
      | exact yields_readScalar
  | succ depth ih =>
    unfold readValue
    dsimp only
    split
    · exact yields_fail
    · split
      · exact (yields_readElements fun _ => ih).bind fun items _ hitems =>
          yields_ok (wellFormed_arr.2 hitems)
      · split
        · refine (yields_readMembers fun _ => ih).bind fun members _ hmembers => yields_ok ?_
          exact wellFormed_obj.2 ⟨Entries.ascending_ordered members, fun member hmember =>
            hmembers member (Entries.mem_of_mem_ordered hmember)⟩
        · exact yields_readScalar

theorem read_wellFormed (h : read text = .ok value) : value.WellFormed := by
  have hyields : Yields WellFormed (readValue deepest (Cursor.start text)) := yields_readValue
  unfold read at h
  cases hvalue : readValue deepest (Cursor.start text) with
  | error failure => rw [hvalue] at h; cases h
  | ok result =>
    have hwell := hyields result.1 result.2 hvalue
    rw [hvalue] at h
    change (readEnd result.2 >>= fun _ => .ok result.1) = .ok value at h
    cases hend : readEnd result.2 with
    | error failure => rw [hend] at h; cases h
    | ok _ =>
      rw [hend] at h
      cases h
      exact hwell

end AccessPolicy.Json
