import AccessPolicy.Proofs.Environment
import AccessPolicy.Proofs.Json.ReadBack
import AccessPolicy.Proofs.Json.Skipped

/-!
# Environments are read as they are written

The members of an environment may come in any order and beside any others, since what two of them
add to a draft does not depend on their order (`Adds.swap`). So an environment that is read from its
text is the one that is made of its parts, and is refused for the same reason (`ofText_written`).
-/

namespace AccessPolicy

namespace Json

def ofTexts (texts : Entries String) : Json := .obj (texts.map fun (key, text) => (key, .str text))

theorem readsLayout_text (text : String) : ReadsLayout readText spacing depth (.str text) text := by
  intro blanks rest hb _ cursor h
  have hskip := rest_skipBlanks_layout hb h
  rw [layout_scalar (by simp) (by simp)] at hskip
  obtain ⟨after, hread, hafter⟩ := reads_string text _ (rest_advance hskip)
  refine ⟨after, ?_, hafter⟩
  simp only [readText, peek?_of_rest hskip]
  exact hread

theorem readsLayout_texts (texts : Entries String) :
    ReadsLayout readTexts spacing depth (ofTexts texts) texts := by
  intro blanks rest hb _ cursor h
  have hread : List.Forall₂ (ReadsMember readText spacing (depth + 1))
      (texts.map fun (key, text) => (key, .str text)) texts :=
    List.forall₂_map_left_iff.2 (List.forall₂_same.2 fun entry _ =>
      ⟨rfl, readsLayout_text entry.2⟩)
  obtain ⟨hpeek, after, hmembers, hafter⟩ :=
    readMembers_object hread (rest_skipBlanks_layout hb h)
  refine ⟨after, ?_, hafter⟩
  simp only [readTexts, hpeek]
  exact hmembers

end Json

namespace Environment

open Json (Cursor Spacing Blank ReadsLayout)

def fieldKeys : List String := ["environment", "location", "accounts"]

namespace Draft

-- ---------------------------------------------------------------------------
-- What a member adds
-- ---------------------------------------------------------------------------

/-- What a member makes of a draft: a field is filled that was not, or nothing is done. -/
inductive Adds : Draft → String × Json → Draft → Prop
  | name {text : String} (h : draft.name = none) :
    Adds draft ("environment", .str text) { draft with name := some text }
  | location {text : String} (h : draft.location = none) :
    Adds draft ("location", .str text) { draft with location := some text }
  | accounts {texts : Entries String} (h : draft.accounts = none) :
    Adds draft ("accounts", .ofTexts texts) { draft with accounts := some texts }
  | other (h : key ∉ fieldKeys) : Adds draft (key, value) draft

inductive Collects : Draft → Entries Json → Draft → Prop
  | nil : Collects draft [] draft
  | cons (h : Adds draft member next) (hrest : Collects next members later) :
    Collects draft (member :: members) later

section
variable {draft next later : Draft} {member other : String × Json} {members others : Entries Json}

theorem Adds.has_eq (h : Adds draft member next) : draft.has member.1 = false := by
  cases h with
  | name h => simp [has, h]
  | location h => simp [has, h]
  | accounts h => simp [has, h]
  | other h =>
    dsimp only [has]
    split
    · exact absurd (by decide) h
    · exact absurd (by decide) h
    · exact absurd (by decide) h
    · rfl

theorem readMember_other (h : key ∉ fieldKeys) (cursor : Cursor) :
    draft.readMember key cursor = (Json.skipValue cursor).map fun after => (draft, after) := by
  unfold readMember
  split
  · exact absurd (by decide) h
  · exact absurd (by decide) h
  · exact absurd (by decide) h
  · cases Json.skipValue cursor <;> rfl

theorem Adds.reads (h : Adds draft member next) :
    ReadsLayout (draft.readMember member.1) spacing depth member.2 next := by
  intro blanks rest hb he cursor hrest
  cases h with
  | name _ =>
    obtain ⟨after, hread, hafter⟩ := Json.readsLayout_text _ blanks rest hb he cursor hrest
    exact ⟨after, by simp only [readMember, hread]; rfl, hafter⟩
  | location _ =>
    obtain ⟨after, hread, hafter⟩ := Json.readsLayout_text _ blanks rest hb he cursor hrest
    exact ⟨after, by simp only [readMember, hread]; rfl, hafter⟩
  | accounts _ =>
    obtain ⟨after, hread, hafter⟩ := Json.readsLayout_texts _ blanks rest hb he cursor hrest
    exact ⟨after, by simp only [readMember, hread]; rfl, hafter⟩
  | other hkey =>
    obtain ⟨after, hpass, hafter⟩ := Json.passes_layout _ hb he cursor hrest
    exact ⟨after, by rw [readMember_other hkey, hpass]; rfl, hafter⟩

-- ---------------------------------------------------------------------------
-- The order of members
-- ---------------------------------------------------------------------------

/-- Two members add the same in either order: they fill different fields. -/
theorem Adds.swap (h : Adds draft member next) (hother : Adds next other later) :
    ∃ between, Adds draft other between ∧ Adds between member later := by
  cases h with
  | other hkey => exact ⟨later, hother, .other hkey⟩
  | name hname =>
    cases hother with
    | name hfilled => cases hfilled
    | location hlocation => exact ⟨_, .location hlocation, .name hname⟩
    | accounts haccounts => exact ⟨_, .accounts haccounts, .name hname⟩
    | other hkey => exact ⟨draft, .other hkey, .name hname⟩
  | location hlocation =>
    cases hother with
    | name hname => exact ⟨_, .name hname, .location hlocation⟩
    | location hfilled => cases hfilled
    | accounts haccounts => exact ⟨_, .accounts haccounts, .location hlocation⟩
    | other hkey => exact ⟨draft, .other hkey, .location hlocation⟩
  | accounts haccounts =>
    cases hother with
    | name hname => exact ⟨_, .name hname, .accounts haccounts⟩
    | location hlocation => exact ⟨_, .location hlocation, .accounts haccounts⟩
    | accounts hfilled => cases hfilled
    | other hkey => exact ⟨draft, .other hkey, .accounts haccounts⟩

theorem Collects.perm (h : Collects draft members later) (hperm : members.Perm others) :
    Collects draft others later := by
  induction hperm generalizing draft with
  | nil => exact h
  | cons member _ ih =>
    cases h with
    | cons hadds hrest => exact .cons hadds (ih hrest)
  | swap second first members =>
    cases h with
    | cons hadds hrest =>
      cases hrest with
      | cons hnext hrest =>
        obtain ⟨between, hfirst, hsecond⟩ := hadds.swap hnext
        exact .cons hfirst (.cons hsecond hrest)
  | trans _ _ ih ihlater => exact ihlater (ih h)

theorem collects_others (h : ∀ member ∈ members, member.1 ∉ fieldKeys) :
    Collects draft members draft := by
  induction members with
  | nil => exact .nil
  | cons member members ih =>
    obtain ⟨hmember, hmembers⟩ := List.forall_mem_cons.1 h
    exact .cons (.other hmember) (ih hmembers)

-- ---------------------------------------------------------------------------
-- Reading members
-- ---------------------------------------------------------------------------

theorem readMembers_collects {cursor : Cursor} (h : Collects draft members later)
    (hb : Blank close) (hs : members.length < steps)
    (hrest : cursor.rest =
      Json.membersLeft spacing depth first members ++ (close ++ '\x7d' :: rest)) :
    ∃ after : Cursor, readMembers steps first draft cursor = .ok (later, after) ∧
      after.rest = rest := by
  obtain ⟨steps, rfl⟩ := Nat.exists_eq_succ_of_ne_zero (Nat.ne_zero_of_lt hs)
  induction h generalizing steps cursor first with
  | nil =>
    obtain ⟨closing, hnext, hclosing⟩ := Json.nextKey_members_nil hb hrest
    refine ⟨closing.advance, ?_, Json.rest_advance hclosing⟩
    rw [readMembers, hnext]
    rfl
  | @cons draft member next members later hadds _ ih =>
    obtain ⟨before, colon, start, after, hnext, hkey, hcolon, hvalue, hafter⟩ :=
      Json.readMember hadds.reads hb hrest
    have hlater : members.length < steps := Nat.lt_of_succ_lt_succ hs
    obtain ⟨steps, rfl⟩ := Nat.exists_eq_succ_of_ne_zero (Nat.ne_zero_of_lt hlater)
    obtain ⟨last, hmembers, hlast⟩ := ih hafter steps hlater
    refine ⟨last, ?_, hlast⟩
    rw [readMembers, hnext]
    simp [bind, Except.bind, hkey, hadds.has_eq, hcolon, hvalue, hmembers]

end

end Draft

-- ---------------------------------------------------------------------------
-- Texts of environments
-- ---------------------------------------------------------------------------

/-- The members of an object that describes an environment: one for its name, one for its location
and one for its accounts, in any order, and any number of others under other keys. -/
def Written (members : Entries Json) (name location : String) (accounts : Entries String) : Prop :=
  ∃ others : Entries Json, (∀ member ∈ others, member.1 ∉ fieldKeys) ∧
    members.Perm (("environment", .str name) :: ("location", .str location) ::
      ("accounts", .ofTexts accounts) :: others)

section
variable {name location : String} {accounts listed : Entries String} {members : Entries Json}

theorem Written.collects (h : Written members name location accounts) :
    Draft.Collects ⟨none, none, none⟩ members ⟨some name, some location, some accounts⟩ := by
  obtain ⟨others, hothers, hperm⟩ := h
  have hfields : Draft.Collects ⟨none, none, none⟩ (("environment", .str name) ::
      ("location", .str location) :: ("accounts", .ofTexts accounts) :: others)
      ⟨some name, some location, some accounts⟩ :=
    .cons (.name rfl) (.cons (.location rfl)
      (.cons (.accounts rfl) (Draft.collects_others hothers)))
  exact hfields.perm hperm.symm

theorem readObject_layout {cursor : Cursor} (h : Written members name location accounts)
    (hrest : cursor.rest = (Json.obj members).layout spacing depth ++ rest) :
    cursor.peek? = some '\x7b' ∧ ∃ after, readObject cursor.advance =
      .ok (⟨name, location, Table.ofList accounts⟩, after) ∧ after.rest = rest := by
  obtain ⟨close, hclose, hlayout⟩ := Json.layout_obj spacing depth members
  rw [hlayout, List.cons_append, List.append_assoc, List.append_assoc] at hrest
  have hs : members.length < cursor.advance.rest.length + 1 := by
    have hlength := Json.length_lt_of_enclosed hrest
    rwa [List.length_map, hrest, List.length_cons, ← Json.rest_advance hrest] at hlength
  obtain ⟨after, hmembers, hafter⟩ :=
    Draft.readMembers_collects h.collects hclose hs (Json.rest_advance hrest)
  refine ⟨Json.peek?_of_rest hrest, after, ?_, hafter⟩
  rw [readObject, hmembers]
  rfl

theorem read_layout (h : Written members name location accounts) (spacing : Spacing) :
    read (String.ofList ((Json.obj members).layout spacing 0)) =
      .ok ⟨name, location, Table.ofList accounts⟩ := by
  have hstart : (Cursor.start (String.ofList ((Json.obj members).layout spacing 0))).rest =
      [] ++ (Json.obj members).layout spacing 0 ++ [] := by
    simp [Cursor.start]
  have hskip := Json.rest_skipBlanks_layout (List.forall_mem_nil _) hstart
  obtain ⟨hpeek, after, hobject, hafter⟩ := readObject_layout h hskip
  simp only [read, hpeek]
  simp [hobject, bind, Except.bind, Json.readEnd_of_rest hafter]

theorem ofText_of_read {text : String}
    (h : read text = .ok ⟨name, location, Table.ofList accounts⟩) :
    ofText text = create name location accounts := by
  rw [ofText, h]
  rfl

theorem create_cases (name location : String) (accounts : Entries String) :
    let environment : Environment := ⟨name, location, Table.ofList accounts⟩
    ((∃ id, (name, id) ∈ accounts) →
      (create name location accounts).outcome = .ok environment) ∧
    ((∀ id, (name, id) ∉ accounts) → (create name location accounts).outcome =
      .error (.unknownAccount name environment.accountNames)) := by
  intro environment
  rw [outcome_create]
  constructor
  · intro hlisted
    obtain ⟨id, hid⟩ := Table.exists_get?_ofList.2 hlisted
    have hfound : environment.defaultAccountId = .ok id := accountId_ok.2 hid
    rw [hfound]
    rfl
  · intro hunlisted
    have habsent : environment.accounts.get? environment.name = none := by
      rw [Option.eq_none_iff_forall_ne_some]
      intro id hid
      obtain ⟨listed, hlisted⟩ := Table.exists_get?_ofList.1 ⟨id, hid⟩
      exact hunlisted listed hlisted
    have hrefused : environment.defaultAccountId =
        .error (.unknownAccount name environment.accountNames) := by
      rw [defaultAccountId, accountId, habsent]
    rw [hrefused]
    rfl

/-- Both texts of an object that describes an environment read as the environment that is made of
the same name, location and accounts, whatever else the object has. Accounts are the same if the
last id that is listed for each name is. The environment has these ids, unless it is refused because
its name is not among the names listed, which are then told in ascending order. -/
theorem ofText_written (h : Written members name location listed)
    (hsame : ∀ account, Entries.find? account listed.reverse =
      Entries.find? account accounts.reverse) :
    ofText (Json.obj members).compact = create name location accounts ∧
    ofText (Json.obj members).pretty = create name location accounts ∧
    ∃ table : Table String,
      (∀ account, table.get? account = Entries.find? account accounts.reverse) ∧
      table.keys.Pairwise (· < ·) ∧
      (∀ account, account ∈ table.keys ↔ ∃ id, (account, id) ∈ accounts) ∧
      ((∃ id, (name, id) ∈ accounts) →
        (create name location accounts).outcome = .ok ⟨name, location, table⟩) ∧
      ((∀ id, (name, id) ∉ accounts) → (create name location accounts).outcome =
        .error (.unknownAccount name table.keys)) := by
  have htable : Table.ofList listed = Table.ofList accounts := by
    refine Table.eq_of_get?_eq fun account => ?_
    rw [Table.get?_ofList, Table.get?_ofList, hsame]
  have hread (spacing : Spacing) :
      ofText (String.ofList ((Json.obj members).layout spacing 0)) =
        create name location accounts :=
    ofText_of_read (htable ▸ read_layout h spacing)
  refine ⟨?_, ?_, Table.ofList accounts, Table.get?_ofList accounts, Table.pairwise_keys _,
    fun account => Table.mem_keys_iff.trans Table.exists_get?_ofList,
    (create_cases name location accounts).1, (create_cases name location accounts).2⟩
  · rw [Json.compact, Json.compactChars_eq_layout _ 0]
    exact hread .none
  · rw [Json.pretty, Json.prettyChars_eq_layout]
    exact hread .lines

/-- An account is listed twice, and a key that is passed over is given twice, once with a number
that is not read. -/
theorem ofText_written_reordered :
    let listed : Entries String := [("größe \"b\"", "2"), ("stg", "1"), ("stg", "3\n")]
    let accounts : Entries String := [("stg", "3\n"), ("größe \"b\"", "2")]
    let members (name : String) : Entries Json := [("note\t", .arr [.float ⟨true, 1⟩, .obj []]),
      ("note\t", .int (-7)), ("accounts", .ofTexts listed), ("location", .str "eu"),
      ("environment", .str name)]
    (∀ name, Written (members name) name "eu" listed) ∧
    (∀ account, Entries.find? account listed.reverse = Entries.find? account accounts.reverse) ∧
    ofText (Json.obj (members "stg")).compact = create "stg" "eu" accounts ∧
    (∃ environment, (ofText (Json.obj (members "stg")).pretty).outcome = .ok environment ∧
      environment.accounts.get? "stg" = some "3\n") ∧
    ∃ available, (ofText (Json.obj (members "dev")).compact).outcome =
        .error (.unknownAccount "dev" available) ∧ "stg" ∈ available := by
  intro listed accounts members
  have hsame (account : String) : Entries.find? account listed.reverse =
      Entries.find? account accounts.reverse := by
    by_cases hstg : "stg" = account
    · subst hstg
      rfl
    · simp [listed, accounts, Entries.find?_cons, hstg]
  have hwritten (name : String) : Written (members name) name "eu" listed := by
    let others : Entries Json :=
      [("note\t", .int (-7)), ("note\t", .arr [.float ⟨true, 1⟩, .obj []])]
    have hothers : ∀ member ∈ others, member.1 ∉ fieldKeys := by
      simp only [others, List.forall_mem_cons]
      exact ⟨by decide, by decide, List.forall_mem_nil _⟩
    let ordered : Entries Json := ("environment", .str name) :: ("location", .str "eu") ::
      ("accounts", .ofTexts listed) :: others
    have hperm : ordered.reverse.Perm ordered := List.reverse_perm ordered
    exact ⟨others, hothers, hperm⟩
  obtain ⟨hcompact, hpretty, table, htable, -, -, haccepted, -⟩ :=
    ofText_written (hwritten "stg") hsame
  obtain ⟨hdev, -, names, -, -, hnames, -, hrefused⟩ := ofText_written (hwritten "dev") hsame
  have hshown : (ofText (Json.obj (members "stg")).pretty).outcome =
      .ok ⟨"stg", "eu", table⟩ := by
    rw [hpretty]
    exact haccepted ⟨_, .head _⟩
  refine ⟨hwritten, hsame, hcompact, ⟨_, hshown, htable "stg"⟩, names.keys, ?_,
    (hnames "stg").2 ⟨_, .head _⟩⟩
  rw [hdev]
  exact hrefused (by simp [accounts])

end

end Environment

end AccessPolicy
