import AccessPolicy.Proofs.Reference.Owner

/-!
# How references are written

The grammar of references, apart from their reader. A reference that is read has been written so,
and all of it is read, but for members of a key's mapping beside the one that names the key
(`ofJson_written`).
-/

namespace AccessPolicy

namespace Json

/-- A value that lists texts: none, one, or those of an array, in their order. -/
inductive Listing : Json → List String → Prop
  | null : Listing .null []
  | one (h : value.scalar? = some text) : Listing value [text]
  | many (h : List.Forall₂ (fun item text => item.scalar? = some text) items texts) :
    Listing (.arr items) texts

inductive Naming : Json → Option String → Prop
  | null : Naming .null none
  | text (text : String) : Naming (.str text) (some text)

/-- The value of a member; an absent one is as `null`. -/
def memberOf (members : Entries Json) (key : String) : Json := (members.find? key).getD .null

end Json

/-- A text of the form `[a-z][a-z0-9-]*`. -/
def ServiceNamespace (text : String) : Prop :=
  ∃ first rest, text.toList = first :: rest ∧ ('a' ≤ first ∧ first ≤ 'z') ∧
    ∀ c ∈ rest, ('a' ≤ c ∧ c ≤ 'z') ∨ ('0' ≤ c ∧ c ≤ '9') ∨ c = '-'

/-- A key is written as its alias, or as a mapping of its alias or its id and nothing more. The
owner has no id. -/
inductive KmsKey.Written : Json → KmsKey → Prop
  | byName (name : String) : Written (.str name) (.alias name)
  | byAlias (name : String) : Written (.obj [("alias", .str name)]) (.alias name)
  | byId {id : String} (howner : id ≠ ownerMarker) :
    Written (.obj [("key_id", .str id)]) (.keyId id)

/-- A key that is read. Its mapping may have further members, which are passed over. -/
inductive KmsKey.Read : Json → KmsKey → Prop
  | byName (name : String) : Read (.str name) (.alias name)
  | byAlias {members : Entries Json} (halias : members.find? "alias" = some (.str name))
    (hid : members.find? "key_id" = none) : Read (.obj members) (.alias name)
  | byId {members : Entries Json} {id : String} (halias : members.find? "alias" = none)
    (hid : members.find? "key_id" = some (.str id)) (howner : id ≠ ownerMarker) :
    Read (.obj members) (.keyId id)

namespace Reference

/-- A mapping with one service tag, and beside it only modifiers of that service. -/
structure Tagged (members : Entries Json) (service : Service) : Prop where
  tag : members.has service.tag = true
  alone : ∀ other : Service, members.has other.tag = true → other = service
  modifiers : ∀ member ∈ members, member.1 = service.tag ∨ member.1 ∈ service.modifiers

/-- How a reference is written, its keys being written as `Key` says. All that is written is in the
reference. -/
inductive Written (Key : Json → KmsKey → Prop) : Json → Reference → Prop
  | literal (text : String) : Written Key (.str text) (.literal text)
  | iam {accounts : List String} (htag : Tagged members .iam)
      (hnames : (Json.memberOf members "iam").Listing names)
      (husers : (Json.memberOf members "users").Listing users)
      (haccounts : (Json.memberOf members "account").Listing accounts) :
      Written Key (.obj members) (.iam names users ⟨accounts, none⟩)
  | s3 (htag : Tagged members .s3) (hbuckets : (Json.memberOf members "s3").Listing buckets) :
      Written Key (.obj members) (.s3 buckets)
  | kms {accounts : List String} (htag : Tagged members .kms)
      (hkeys : List.Forall₂ Key (Json.memberOf members "kms").entries keys)
      (haccounts : (Json.memberOf members "account").Listing accounts)
      (hlocation : (Json.memberOf members "location").Naming location) :
      Written Key (.obj members) (.kms keys ⟨accounts, location⟩)
  | arn {accounts : List String} (htag : Tagged members .arn)
      (hservice : Json.memberOf members "arn" = .str service)
      (hnamespace : ServiceNamespace service)
      (hidentities : (Json.memberOf members "identity").Listing identities)
      (hnonempty : identities ≠ [])
      (haccounts : (Json.memberOf members "account").Listing accounts)
      (hlocation : (Json.memberOf members "location").Naming location) :
      Written Key (.obj members) (.arn service identities ⟨accounts, location⟩)

def SingleKeyMembers : Json → Prop
  | .obj members =>
    ∀ key : Entries Json, .obj key ∈ (Json.memberOf members "kms").entries → key.length = 1
  | _ => True

end Reference

-- ---------------------------------------------------------------------------
-- Parts of references
-- ---------------------------------------------------------------------------

theorem Json.stringList_iff {value : Json} :
    value.stringList field = .ok texts ↔ value.Listing texts := by
  rw [stringList_ok]
  constructor
  · intro h
    cases value with
    | null => exact (show texts = [] from h) ▸ .null
    | arr items => exact .many h
    | _ =>
      obtain ⟨text, rest, htext, hrest, rfl⟩ := List.forall₂_cons_left_iff.1 h
      rw [List.forall₂_nil_left_iff.1 hrest]
      exact .one htext
  · intro h
    cases h with
    | null => rfl
    | one h =>
      cases value with
      | null | arr | obj => cases h
      | _ => exact .cons h .nil
    | many h => exact h

theorem isServiceNamespace_iff :
    Reference.isServiceNamespace text = true ↔ ServiceNamespace text := by
  have hbetween (low high c : Char) :
      (decide (c.val ≥ low.val) && decide (c.val ≤ high.val)) = true ↔ low ≤ c ∧ c ≤ high := by
    simp [Char.le_def]
  have hlower (c : Char) : c.isLower = true ↔ 'a' ≤ c ∧ c ≤ 'z' := hbetween 'a' 'z' c
  have hdigit (c : Char) : c.isDigit = true ↔ '0' ≤ c ∧ c ≤ '9' := hbetween '0' '9' c
  unfold Reference.isServiceNamespace ServiceNamespace
  cases text.toList with
  | nil => simp
  | cons first rest => simp [hlower, hdigit, or_assoc]

theorem KmsKey.Written.read (h : KmsKey.Written value key) : KmsKey.Read value key := by
  cases h with
  | byName name => exact .byName name
  | byAlias name => exact .byAlias rfl rfl
  | byId howner => exact .byId rfl rfl howner

theorem KmsKey.Read.written (h : KmsKey.Read value key)
    (hsingle : ∀ members : Entries Json, value = .obj members → members.length = 1) :
    KmsKey.Written value key := by
  cases h with
  | byName name => exact .byName name
  | byAlias halias _ =>
    obtain ⟨member, rfl⟩ := List.length_eq_one_iff.1 (hsingle _ rfl)
    obtain rfl := List.mem_singleton.1 (Entries.mem_of_find? halias)
    exact .byAlias _
  | byId _ hid howner =>
    obtain ⟨member, rfl⟩ := List.length_eq_one_iff.1 (hsingle _ rfl)
    obtain rfl := List.mem_singleton.1 (Entries.mem_of_find? hid)
    exact .byId howner

theorem KmsKey.Written.single {members : Entries Json} (h : KmsKey.Written (.obj members) key) :
    members.length = 1 := by
  cases h <;> rfl

theorem KmsKey.written_iff : KmsKey.Written value key ↔
    (∀ members : Entries Json, value = .obj members → members.length = 1) ∧
      KmsKey.Read value key := by
  constructor
  · intro h
    refine ⟨?_, h.read⟩
    rintro members rfl
    exact h.single
  · exact fun ⟨hsingle, h⟩ => h.written hsingle

namespace Reference

section
variable {members : Entries Json} {service : Service} {reference : Reference} {scope : Scope}
  {value : Json}

-- ---------------------------------------------------------------------------
-- Reading parts
-- ---------------------------------------------------------------------------

theorem modifierStrings_ok : modifierStrings field members key = .ok texts ↔
    (Json.memberOf members key).Listing texts := by
  have heq : modifierStrings field members key =
      (Json.memberOf members key).stringList (modifierField field key) := by
    rw [modifierStrings, Json.memberOf]
    cases members.find? key <;> rfl
  rw [heq, Json.stringList_iff]

theorem modifierString_ok : modifierString field members key = .ok text ↔
    (Json.memberOf members key).Naming text := by
  have hnaming (value : Json) : value.Naming text ↔
      value = .null ∧ text = none ∨ ∃ named, value = .str named ∧ text = some named := by
    constructor
    · rintro (_ | ⟨named⟩)
      · exact .inl ⟨rfl, rfl⟩
      · exact .inr ⟨named, rfl, rfl⟩
    · rintro (⟨rfl, rfl⟩ | ⟨named, rfl, rfl⟩)
      · exact .null
      · exact .text named
  rw [hnaming, modifierString, Json.memberOf]
  rcases members.find? key with _ | value
  · simp [eq_comm]
  · cases value <;> simp [eq_comm]

theorem readScope_ok : readScope field members = .ok scope ↔
    (Json.memberOf members "account").Listing scope.accounts ∧
      (Json.memberOf members "location").Naming scope.location := by
  simp only [readScope, bind_ok, modifierStrings_ok, modifierString_ok, Except.ok.injEq]
  constructor
  · rintro ⟨accounts, haccounts, location, hlocation, rfl⟩
    exact ⟨haccounts, hlocation⟩
  · rintro ⟨haccounts, hlocation⟩
    exact ⟨_, haccounts, _, hlocation, rfl⟩

theorem readKey_ok : readKey field value = .ok key ↔ KmsKey.Read value key := by
  constructor
  · intro h
    unfold readKey at h
    split at h
    · cases h
      exact .byName _
    · split at h
      · next halias hid =>
        cases h
        exact .byAlias halias hid
      · next halias hid =>
        split at h
        · cases h
        · next howner =>
          cases h
          exact .byId halias hid howner
      · cases h
    · cases h
  · intro h
    cases h with
    | byName name => rfl
    | byAlias halias hid => simp only [readKey, halias, hid]
    | byId halias hid howner => simp only [readKey, halias, hid, if_neg howner]

theorem readNamespace_ok : readNamespace value = .ok text ↔
    value = .str text ∧ ServiceNamespace text := by
  rw [← isServiceNamespace_iff]
  cases value with
  | str service =>
    rw [readNamespace, Json.str.injEq]
    constructor
    · intro h
      split at h
      · next hnamespace =>
        cases h
        exact ⟨rfl, hnamespace⟩
      · cases h
    · rintro ⟨rfl, hnamespace⟩
      rw [if_pos hnamespace]
  | _ => simp [readNamespace]

-- ---------------------------------------------------------------------------
-- Tags
-- ---------------------------------------------------------------------------

theorem services_eq_iff : services members = [service] ↔
    members.has service.tag = true ∧
      ∀ other : Service, members.has other.tag = true → other = service := by
  constructor
  · exact fun h => ⟨has_tag h, fun _ => eq_of_has_tag h⟩
  · rintro ⟨htag, halone⟩
    have hservices : services members = Service.all.filter (· = service) := by
      refine List.filter_congr fun other _ => Bool.eq_iff_iff.2 ?_
      rw [decide_eq_true_iff]
      exact ⟨halone other, fun heq => heq ▸ htag⟩
    rw [hservices]
    cases service <;> rfl

theorem checkModifiers_ok : checkModifiers field service members = .ok () ↔
    ∀ member ∈ members, member.1 = service.tag ∨ member.1 ∈ service.modifiers := by
  have hnone : (members.map (·.1)).find? (fun key => key ≠ service.tag ∧ key ∉ service.modifiers) =
      none ↔ ∀ member ∈ members, member.1 = service.tag ∨ member.1 ∈ service.modifiers := by
    simp only [List.find?_eq_none, List.forall_mem_map, decide_eq_true_eq, ← not_or, not_not]
  rw [← hnone]
  simp only [checkModifiers]
  split
  · next h => exact iff_of_true rfl h
  · next h => exact iff_of_false (fun h => nomatch h) (by rw [h]; exact Option.some_ne_none _)

/-- A key that has no meaning for a service is absent. -/
theorem Tagged.memberOf_eq_null (h : Tagged members service) (htag : key ≠ service.tag)
    (hmodifier : key ∉ service.modifiers) : Json.memberOf members key = .null := by
  have hnone : members.find? key = none := by
    refine Entries.find?_eq_none_iff.2 fun member hmember heq => ?_
    rcases h.modifiers member hmember with hname | hname
    · exact htag (heq ▸ hname)
    · exact hmodifier (heq ▸ hname)
  rw [Json.memberOf, hnone]
  rfl

theorem readParts_iam_ok (h : Tagged members .iam) :
    readParts field .iam (Json.memberOf members "iam") members = .ok reference ↔
      Written KmsKey.Read (.obj members) reference := by
  have hnowhere : Json.memberOf members "location" = .null :=
    h.memberOf_eq_null (by decide) (by decide)
  constructor
  · intro hread
    obtain ⟨⟨accounts, location⟩, hscope, hread⟩ := bind_ok.1 hread
    obtain ⟨names, hnames, hread⟩ := bind_ok.1 hread
    obtain ⟨users, husers, hread⟩ := bind_ok.1 hread
    obtain rfl := Except.ok.inj hread
    obtain ⟨haccounts, hlocation⟩ := readScope_ok.1 hscope
    rw [hnowhere] at hlocation
    cases hlocation
    exact .iam h (Json.stringList_iff.1 hnames) (modifierStrings_ok.1 husers) haccounts
  · intro hwritten
    cases hwritten with
    | iam _ hnames husers haccounts =>
      exact bind_ok.2 ⟨_, readScope_ok.2 ⟨haccounts, hnowhere ▸ .null⟩,
        bind_ok.2 ⟨_, Json.stringList_iff.2 hnames,
          bind_ok.2 ⟨_, modifierStrings_ok.2 husers, rfl⟩⟩⟩
    | s3 htag | kms htag | arn htag => cases h.alone _ htag.tag

theorem readParts_s3_ok (h : Tagged members .s3) :
    readParts field .s3 (Json.memberOf members "s3") members = .ok reference ↔
      Written KmsKey.Read (.obj members) reference := by
  constructor
  · intro hread
    obtain ⟨_, -, hread⟩ := bind_ok.1 hread
    obtain ⟨buckets, hbuckets, hread⟩ := bind_ok.1 hread
    obtain rfl := Except.ok.inj hread
    exact .s3 h (Json.stringList_iff.1 hbuckets)
  · intro hwritten
    cases hwritten with
    | s3 _ hbuckets =>
      have hscope : readScope field members = .ok ⟨[], none⟩ := by
        refine readScope_ok.2 ⟨?_, ?_⟩
        · rw [h.memberOf_eq_null (by decide) (by decide)]
          exact .null
        · rw [h.memberOf_eq_null (by decide) (by decide)]
          exact .null
      exact bind_ok.2 ⟨_, hscope, bind_ok.2 ⟨_, Json.stringList_iff.2 hbuckets, rfl⟩⟩
    | iam htag | kms htag | arn htag => cases h.alone _ htag.tag

theorem readParts_kms_ok (h : Tagged members .kms) :
    readParts field .kms (Json.memberOf members "kms") members = .ok reference ↔
      Written KmsKey.Read (.obj members) reference := by
  have hkeys (keys : List KmsKey) :
      (Json.memberOf members "kms").entries.mapM (readKey field) = .ok keys ↔
        List.Forall₂ KmsKey.Read (Json.memberOf members "kms").entries keys := by
    simp only [mapM_ok, readKey_ok]
  constructor
  · intro hread
    obtain ⟨⟨accounts, location⟩, hscope, hread⟩ := bind_ok.1 hread
    obtain ⟨keys, hitems, hread⟩ := bind_ok.1 hread
    obtain rfl := Except.ok.inj hread
    obtain ⟨haccounts, hlocation⟩ := readScope_ok.1 hscope
    exact .kms h ((hkeys keys).1 hitems) haccounts hlocation
  · intro hwritten
    cases hwritten with
    | kms _ hitems haccounts hlocation =>
      exact bind_ok.2 ⟨_, readScope_ok.2 ⟨haccounts, hlocation⟩,
        bind_ok.2 ⟨_, (hkeys _).2 hitems, rfl⟩⟩
    | iam htag | s3 htag | arn htag => cases h.alone _ htag.tag

theorem readParts_arn_ok (h : Tagged members .arn) :
    readParts field .arn (Json.memberOf members "arn") members = .ok reference ↔
      Written KmsKey.Read (.obj members) reference := by
  constructor
  · intro hread
    obtain ⟨⟨accounts, location⟩, hscope, hread⟩ := bind_ok.1 hread
    obtain ⟨name, hname, hread⟩ := bind_ok.1 hread
    obtain ⟨identities, hidentities, hread⟩ := bind_ok.1 hread
    obtain ⟨haccounts, hlocation⟩ := readScope_ok.1 hscope
    obtain ⟨htagged, hnamespace⟩ := readNamespace_ok.1 hname
    split at hread
    · cases hread
    · next hnonempty =>
      obtain rfl := Except.ok.inj hread
      exact .arn h htagged hnamespace (modifierStrings_ok.1 hidentities)
        (mt List.isEmpty_iff.2 hnonempty) haccounts hlocation
  · intro hwritten
    cases hwritten with
    | arn _ hservice hnamespace hidentities hnonempty haccounts hlocation =>
      refine bind_ok.2 ⟨⟨_, _⟩, readScope_ok.2 ⟨haccounts, hlocation⟩,
        bind_ok.2 ⟨_, readNamespace_ok.2 ⟨hservice, hnamespace⟩,
          bind_ok.2 ⟨_, modifierStrings_ok.2 hidentities, ?_⟩⟩⟩
      rw [if_neg (mt List.isEmpty_iff.1 hnonempty)]
    | iam htag | s3 htag | kms htag => cases h.alone _ htag.tag

theorem readParts_ok (h : Tagged members service) :
    readParts field service (Json.memberOf members service.tag) members = .ok reference ↔
      Written KmsKey.Read (.obj members) reference := by
  cases service with
  | iam => exact readParts_iam_ok h
  | s3 => exact readParts_s3_ok h
  | kms => exact readParts_kms_ok h
  | arn => exact readParts_arn_ok h

-- ---------------------------------------------------------------------------
-- Reading references
-- ---------------------------------------------------------------------------

theorem Written.tagged (h : Written Key (.obj members) reference) :
    ∃ service, Tagged members service := by
  cases h with
  | iam htag | s3 htag | kms htag | arn htag => exact ⟨_, htag⟩

theorem ofMembers_ok : ofMembers field members = .ok reference ↔
    Written KmsKey.Read (.obj members) reference := by
  constructor
  · intro h
    obtain ⟨service, hservice, h⟩ := bind_ok.1 h
    obtain ⟨⟨⟩, hmodifiers, hparts⟩ := bind_ok.1 h
    obtain ⟨htag, halone⟩ := services_eq_iff.1 (theService_ok.1 hservice)
    exact (readParts_ok ⟨htag, halone, checkModifiers_ok.1 hmodifiers⟩).1 hparts
  · intro h
    obtain ⟨service, htagged⟩ := h.tagged
    have hservice := services_eq_iff.2 ⟨htagged.tag, htagged.alone⟩
    exact bind_ok.2 ⟨service, theService_ok.2 hservice, bind_ok.2
      ⟨(), checkModifiers_ok.2 htagged.modifiers, (readParts_ok htagged).2 h⟩⟩

theorem ofJson_ok : ofJson field value = .ok reference ↔ Written KmsKey.Read value reference := by
  cases value with
  | str text =>
    rw [ofJson, Except.ok.injEq]
    constructor
    · rintro rfl
      exact .literal text
    · intro h
      cases h
      rfl
  | obj members => exact ofMembers_ok
  | _ => exact iff_of_false (fun h => nomatch h) fun h => nomatch h

-- ---------------------------------------------------------------------------
-- Mappings of keys
-- ---------------------------------------------------------------------------

theorem singleKeyMembers_of_tagged (h : Tagged members service) (hservice : service ≠ .kms) :
    SingleKeyMembers (.obj members) := by
  have hnull : Json.memberOf members "kms" = .null := by
    cases service with
    | kms => exact absurd rfl hservice
    | _ => exact h.memberOf_eq_null (by decide) (by decide)
  simp [SingleKeyMembers, hnull, Json.entries]

theorem forall₂_written_iff : List.Forall₂ KmsKey.Written items keys ↔
    (∀ members : Entries Json, .obj members ∈ items → members.length = 1) ∧
      List.Forall₂ KmsKey.Read items keys := by
  have hitems : (∀ members : Entries Json, .obj members ∈ items → members.length = 1) ↔
      ∀ item ∈ items, ∀ members : Entries Json, item = .obj members → members.length = 1 := by
    constructor
    · rintro h _ hitem members rfl
      exact h members hitem
    · exact fun h members hmembers => h _ hmembers members rfl
  rw [hitems, ← List.forall₂_and_left]
  exact ⟨fun h => h.imp fun _ _ => KmsKey.written_iff.1,
    fun h => h.imp fun _ _ => KmsKey.written_iff.2⟩

theorem written_iff : Written KmsKey.Written value reference ↔
    Written KmsKey.Read value reference ∧ SingleKeyMembers value := by
  constructor
  · intro h
    cases h with
    | literal text => exact ⟨.literal text, trivial⟩
    | iam htag hnames husers haccounts =>
      exact ⟨.iam htag hnames husers haccounts, singleKeyMembers_of_tagged htag (by decide)⟩
    | s3 htag hbuckets => exact ⟨.s3 htag hbuckets, singleKeyMembers_of_tagged htag (by decide)⟩
    | kms htag hkeys haccounts hlocation =>
      obtain ⟨hsingle, hkeys⟩ := forall₂_written_iff.1 hkeys
      exact ⟨.kms htag hkeys haccounts hlocation, hsingle⟩
    | arn htag hservice hnamespace hidentities hnonempty haccounts hlocation =>
      exact ⟨.arn htag hservice hnamespace hidentities hnonempty haccounts hlocation,
        singleKeyMembers_of_tagged htag (by decide)⟩
  · rintro ⟨h, hsingle⟩
    cases h with
    | literal text => exact .literal text
    | iam htag hnames husers haccounts => exact .iam htag hnames husers haccounts
    | s3 htag hbuckets => exact .s3 htag hbuckets
    | kms htag hkeys haccounts hlocation =>
      exact .kms htag (forall₂_written_iff.2 ⟨hsingle, hkeys⟩) haccounts hlocation
    | arn htag hservice hnamespace hidentities hnonempty haccounts hlocation =>
      exact .arn htag hservice hnamespace hidentities hnonempty haccounts hlocation

end

/-- What is read has been written, and what is written is read, by one grammar but for the mappings
of keys: they are documented to have a single member, and what else they have is passed over. -/
theorem ofJson_written (field : String) (value : Json) (reference : Reference) :
    (ofJson field value = .ok reference ↔ Written KmsKey.Read value reference) ∧
    (Written KmsKey.Written value reference ↔
      ofJson field value = .ok reference ∧ SingleKeyMembers value) := by
  refine ⟨ofJson_ok, ?_⟩
  rw [ofJson_ok, written_iff]

/-- The location in the mapping of a key is lost. -/
theorem ofJson_passes_over_location :
    let value := Json.obj
      [("kms", .obj [("alias", .str "app"), ("location", .str "us-east-1")])]
    ofJson "resource" value = .ok (.kms [.alias "app"] ⟨[], none⟩) ∧
      ∀ reference, ¬Written KmsKey.Written value reference := by
  intro value
  refine ⟨rfl, fun reference h => ?_⟩
  have hsingle : SingleKeyMembers value := (written_iff.1 h).2
  exact absurd (hsingle _ List.mem_cons_self) (by decide)

end Reference

end AccessPolicy
