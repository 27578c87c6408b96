import Mathlib.Algebra.Order.Group.Nat
import AccessPolicy.Proofs.Reference.Accounts

/-!
# The order of identifiers

A reference resolves to one identifier for each account and each of its values, accounts varying
slowest, and to those of the owner behind them (`resolve_fansOut`).
-/

namespace AccessPolicy

-- ---------------------------------------------------------------------------
-- Parts of one length
-- ---------------------------------------------------------------------------

section
variable {items : List α} {f : α → List β}

theorem length_flatMap_of_length (h : ∀ a ∈ items, (f a).length = n) :
    (items.flatMap f).length = items.length * n := by
  induction items with
  | nil => simp
  | cons a rest ih =>
    obtain ⟨ha, hrest⟩ := List.forall_mem_cons.1 h
    rw [List.flatMap_cons, List.length_append, ha, ih hrest, List.length_cons, Nat.succ_mul,
      Nat.add_comm]

theorem getElem?_flatMap_of_length (h : ∀ a ∈ items, (f a).length = n) (ha : items[i]? = some a)
    (hk : k < n) : (items.flatMap f)[i * n + k]? = (f a)[k]? := by
  induction items generalizing i with
  | nil => simp at ha
  | cons first rest ih =>
    obtain ⟨hfirst, hrest⟩ := List.forall_mem_cons.1 h
    rw [List.flatMap_cons]
    cases i with
    | zero =>
      obtain rfl := Option.some.inj ha
      rw [Nat.zero_mul, Nat.zero_add, List.getElem?_append_left (by omega)]
    | succ i =>
      have hlater : (i + 1) * n + k = n + (i * n + k) := by rw [Nat.succ_mul]; omega
      rw [hlater, ← hfirst, List.getElem?_append_right (Nat.le_add_right ..),
        Nat.add_sub_cancel_left, hfirst]
      exact ih hrest ha

end

theorem length_pairs (as : List α) (bs : List β) : (pairs as bs).length = as.length * bs.length :=
  length_flatMap_of_length fun _ _ => List.length_map _

theorem getElem?_pairs {as : List α} {bs : List β} (ha : as[i]? = some a) (hb : bs[j]? = some b) :
    (pairs as bs)[i * bs.length + j]? = some (a, b) := by
  obtain ⟨hj, -⟩ := List.getElem?_eq_some_iff.1 hb
  rw [pairs, getElem?_flatMap_of_length (fun _ _ => List.length_map _) ha hj, List.getElem?_map, hb]
  rfl

-- ---------------------------------------------------------------------------
-- Identifiers
-- ---------------------------------------------------------------------------

/-- One element for each pair of two lists, the first varying slowest. -/
structure Grid (R : α → β → γ → Prop) (as : List α) (bs : List β) (cs : List γ) : Prop where
  length : cs.length = as.length * bs.length
  entry : ∀ i j a b, as[i]? = some a → bs[j]? = some b →
    ∃ c, cs[i * bs.length + j]? = some c ∧ R a b c

namespace Reference

/-- The service that a role belongs to; roles that have been assumed belong to another. -/
inductive RoleService : String → String → Prop
  | assumed (rest : String) : RoleService ("assumed-role" ++ rest) "sts"
  | other (h : ∀ rest, name ≠ "assumed-role" ++ rest) : RoleService name "iam"

/-- What follows a role in an identifier: each of its users, or nothing if it has none. -/
def endings (users : List String) : List String :=
  if users = [] then [""] else users.map ("/" ++ ·)

/-- The identifiers of roles: those of the named ones by account, name and user, and behind them
those of the owner in the environment's own account, if a name is the marker. -/
structure RolesFanOut (context : Context) (names users ids arns : List String) : Prop where
  length : arns.length = ids.length * (names.filter (· ≠ ownerMarker)).length * max 1 users.length +
    if ownerMarker ∈ names then max 1 users.length else 0
  named : ∀ i j k account name ending, ids[i]? = some account →
    (names.filter (· ≠ ownerMarker))[j]? = some name → (endings users)[k]? = some ending →
    ∃ service, RoleService name service ∧
      arns[(i * (names.filter (· ≠ ownerMarker)).length + j) * max 1 users.length + k]? =
        some ("arn:aws:" ++ service ++ "::" ++ account ++ ":" ++ name ++ ending)
  owner : ∀ k home ending, ownerMarker ∈ names → context.environment.IdOf "" home →
    (endings users)[k]? = some ending →
    arns[ids.length * (names.filter (· ≠ ownerMarker)).length * max 1 users.length + k]? =
      some ("arn:aws:iam::" ++ home ++ ":role/" ++ context.owner.name ++ ending)

/-- The identifier of a key in an account. The owner is where the environment is. -/
inductive KeyArn (context : Context) (location : Option String) (account : String) :
    KmsKey → String → Prop
  | owner : KeyArn context location account (.alias ownerMarker)
      ("arn:aws:kms:" ++ context.location ++ ":" ++ account ++ ":alias/" ++ context.owner.name)
  | byAlias (h : name ≠ ownerMarker) : KeyArn context location account (.alias name)
      ("arn:aws:kms:" ++ location.getD context.location ++ ":" ++ account ++ ":alias/" ++ name)
  | byId (id : String) : KeyArn context location account (.keyId id)
      ("arn:aws:kms:" ++ location.getD context.location ++ ":" ++ account ++ ":key/" ++ id)

/-- The name of a bucket, with the owner's in the place of the marker. -/
inductive BucketName (context : Context) : String → String → Prop
  | owner : BucketName context ownerMarker context.owner.name
  | path (path : String) :
    BucketName context (ownerMarker ++ "/" ++ path) (context.owner.name ++ "/" ++ path)
  | other (h : ¬MarksBucket bucket) : BucketName context bucket bucket

/-- The identifiers of a bucket, which include its contents unless a path is given. -/
inductive BucketArns (name : String) : List String → Prop
  | path (h : '/' ∈ name.toList) : BucketArns name ["arn:aws:s3:::" ++ name]
  | whole (h : '/' ∉ name.toList) :
    BucketArns name ["arn:aws:s3:::" ++ name, "arn:aws:s3:::" ++ name ++ "/*"]

def OtherArn (context : Context) (service : String) (location : Option String)
    (account identity arn : String) : Prop :=
  arn = "arn:aws:" ++ service ++ ":" ++ location.getD context.location ++ ":" ++ account ++ ":" ++
    identity

inductive FansOut (context : Context) : Reference → List String → Prop
  | literal (text : String) : FansOut context (.literal text) [text]
  | iam (hids : context.environment.IdsOf scope.accounts ids)
      (harns : RolesFanOut context names users ids arns) :
      FansOut context (.iam names users scope) arns
  | s3 (hnames : List.Forall₂ (BucketName context) buckets names)
      (harns : List.Forall₂ BucketArns names parts) :
      FansOut context (.s3 buckets) parts.flatten
  | kms (hids : context.environment.IdsOf scope.accounts ids)
      (harns : Grid (KeyArn context scope.location) ids keys arns) :
      FansOut context (.kms keys scope) arns
  | arn (hids : context.environment.IdsOf scope.accounts ids)
      (harns : Grid (OtherArn context service scope.location) ids identities arns) :
      FansOut context (.arn service identities scope) arns

theorem grid_pairs {R : α → β → γ → Prop} {f : α → β → γ} (h : ∀ a b, R a b (f a b))
    (as : List α) (bs : List β) : Grid R as bs ((pairs as bs).map fun (a, b) => f a b) := by
  refine ⟨by rw [List.length_map, length_pairs], fun i j a b ha hb => ⟨f a b, ?_, h a b⟩⟩
  rw [List.getElem?_map, getElem?_pairs ha hb]
  rfl

-- ---------------------------------------------------------------------------
-- Roles
-- ---------------------------------------------------------------------------

section
variable {context : Context} {names users ids : List String} {account name : String}

theorem length_endings (users : List String) : (endings users).length = max 1 users.length := by
  cases users with
  | nil => rfl
  | cons user rest => simp [endings]

theorem iamArns_eq (h : RoleService name service) (account : String) (users : List String) :
    iamArns account name users =
      (endings users).map ("arn:aws:" ++ service ++ "::" ++ account ++ ":" ++ name ++ ·) := by
  have hservice : (if beginsWith "assumed-role" name then "sts" else "iam") = service := by
    cases h with
    | assumed rest => exact if_pos (beginsWith_iff.2 ⟨rest, rfl⟩)
    | other h => exact if_neg fun hassumed => (beginsWith_iff.1 hassumed).elim h
  simp only [iamArns, hservice]
  cases users with
  | nil => simp [endings]
  | cons user rest => simp [endings, String.append_assoc]

theorem exists_roleService (name : String) : ∃ service, RoleService name service := by
  by_cases h : ∃ rest, name = "assumed-role" ++ rest
  · obtain ⟨rest, rfl⟩ := h
    exact ⟨_, .assumed rest⟩
  · exact ⟨_, .other (not_exists.1 h)⟩

theorem length_iamArns (account name : String) (users : List String) :
    (iamArns account name users).length = max 1 users.length := by
  obtain ⟨service, hservice⟩ := exists_roleService name
  rw [iamArns_eq hservice, List.length_map, length_endings]

theorem roleService_owner (owner : String) : RoleService ("role/" ++ owner) "iam" := by
  refine .other fun rest h => ?_
  have hfirst := congrArg (fun text => text.toList.head?) h
  simp at hfirst

def namedArns (names users ids : List String) : List String :=
  (pairs ids (names.filter (· ≠ ownerMarker))).flatMap fun (account, name) =>
    iamArns account name users

theorem length_namedArns (names users ids : List String) : (namedArns names users ids).length =
    ids.length * (names.filter (· ≠ ownerMarker)).length * max 1 users.length := by
  rw [namedArns, length_flatMap_of_length fun _ _ => length_iamArns _ _ users, length_pairs]

theorem getElem?_namedArns (hid : ids[i]? = some account)
    (hname : (names.filter (· ≠ ownerMarker))[j]? = some name)
    (hending : (endings users)[k]? = some ending) (hservice : RoleService name service) :
    (namedArns names users ids)[
        (i * (names.filter (· ≠ ownerMarker)).length + j) * max 1 users.length + k]? =
      some ("arn:aws:" ++ service ++ "::" ++ account ++ ":" ++ name ++ ending) := by
  obtain ⟨hk, -⟩ := List.getElem?_eq_some_iff.1 hending
  rw [length_endings] at hk
  rw [namedArns, getElem?_flatMap_of_length (fun _ _ => length_iamArns _ _ users)
    (getElem?_pairs hid hname) hk, iamArns_eq hservice, List.getElem?_map, hending]
  rfl

theorem ownerRoleArns_ok (hhome : context.environment.defaultAccountId = .ok home)
    (howner : ownerMarker ∈ names → context.owner.kind = .role) :
    ownerRoleArns context names users =
      .ok (if ownerMarker ∈ names then iamArns home ("role/" ++ context.owner.name) users
        else []) := by
  by_cases hmarked : ownerMarker ∈ names
  · rw [ownerRoleArns, if_pos (List.contains_iff_mem.2 hmarked), if_pos hmarked,
      requireOwner_ok.2 (howner hmarked), hhome]
    rfl
  · rw [ownerRoleArns, if_neg (mt List.contains_iff_mem.1 hmarked), if_neg hmarked]

theorem rolesFanOut (hhome : context.environment.defaultAccountId = .ok home) :
    RolesFanOut context names users ids (namedArns names users ids ++
      if ownerMarker ∈ names then iamArns home ("role/" ++ context.owner.name) users else []) := by
  refine ⟨?_, ?_, ?_⟩
  · rw [List.length_append, length_namedArns]
    split
    · rw [length_iamArns]
    · rfl
  · intro i j k account name ending hid hname hending
    obtain ⟨service, hservice⟩ := exists_roleService name
    have hnamed := getElem?_namedArns hid hname hending hservice
    obtain ⟨hbound, -⟩ := List.getElem?_eq_some_iff.1 hnamed
    exact ⟨service, hservice, by rw [List.getElem?_append_left hbound, hnamed]⟩
  · -- the owner's identifiers begin where those of the named roles end
    intro k account ending hmarked haccount hending
    obtain rfl := Except.ok.inj (hhome.symm.trans (Environment.idOf_empty.1 haccount))
    rw [← length_namedArns, List.getElem?_append_right (Nat.le_add_right ..),
      Nat.add_sub_cancel_left, if_pos hmarked, iamArns_eq (roleService_owner _),
      List.getElem?_map, hending]
    exact congrArg some (String.toList_inj.1 (by simp))

end

-- ---------------------------------------------------------------------------
-- Buckets and keys
-- ---------------------------------------------------------------------------

section
variable {context : Context} {bucket : String}

theorem afterMarker?_append (h : (afterMarker? (ownerMarker ++ rest)).isSome = true) :
    afterMarker? (ownerMarker ++ rest) = some rest := by
  have hdrop : (ownerMarker ++ rest).toList.drop ownerMarker.length = rest.toList := by
    rw [String.toList_append, ← String.length_toList, List.drop_left]
  simp only [afterMarker?, hdrop, String.ofList_toList] at h ⊢
  split at h
  · next hmarked => rw [if_pos hmarked]
  · cases h

theorem exists_bucketName (context : Context)
    (howner : MarksBucket bucket → context.owner.kind = .bucket) :
    ∃ name, bucketName context bucket = .ok name ∧ BucketName context bucket name := by
  have hrenamed (rest : String) (hmarks : MarksBucket (ownerMarker ++ rest))
      (hkind : context.owner.kind = .bucket) :
      bucketName context (ownerMarker ++ rest) = .ok (context.owner.name ++ rest) := by
    rw [bucketName, afterMarker?_append (isSome_afterMarker?.2 hmarks), requireOwner_ok.2 hkind]
    rfl
  by_cases hmarks : MarksBucket bucket
  · have hkind := howner hmarks
    rcases hmarks with rfl | ⟨path, rfl⟩
    · refine ⟨_, ?_, .owner⟩
      simpa using hrenamed "" (.inl rfl) hkind
    · refine ⟨_, ?_, .path path⟩
      have hmarks : MarksBucket (ownerMarker ++ ("/" ++ path)) :=
        .inr ⟨path, String.append_assoc.symm⟩
      simpa only [String.append_assoc] using hrenamed ("/" ++ path) hmarks hkind
  · have hnone : afterMarker? bucket = none :=
      Option.not_isSome_iff_eq_none.1 (mt isSome_afterMarker?.1 hmarks)
    exact ⟨bucket, by rw [bucketName, hnone], .other hmarks⟩

theorem bucketArns_spec (name : String) : BucketArns name (bucketArns name) := by
  by_cases hpath : '/' ∈ name.toList
  · rw [bucketArns, if_pos (List.contains_iff_mem.2 hpath)]
    exact .path hpath
  · rw [bucketArns, if_neg (mt List.contains_iff_mem.1 hpath)]
    exact .whole hpath

theorem keyArn_spec (context : Context) (location : Option String) (account : String)
    (key : KmsKey) : KeyArn context location account key
      (keyArn context (location.getD context.location) account key) := by
  rcases key with name | id
  · by_cases howner : name = ownerMarker
    · subst howner
      exact .owner
    · rw [keyArn, if_neg (by simpa [KmsKey.isOwner] using howner)]
      exact .byAlias howner
  · exact .byId id

end

-- ---------------------------------------------------------------------------
-- Resolving
-- ---------------------------------------------------------------------------

/-- A reference to known accounts, and to an owner of the right kind if to one at all, resolves, and
its identifiers are in order. -/
theorem resolve_fansOut (context : Context) (reference : Reference)
    (hvalid : context.environment.Valid)
    (haccounts : ∀ account ∈ reference.accounts, context.environment.Knows account)
    (howner : ∀ wanted, reference.StandsForOwner wanted → context.owner.kind = wanted) :
    ∃ arns, reference.resolve context = .ok arns ∧ FansOut context reference arns := by
  cases reference with
  | literal text => exact ⟨[text], rfl, .literal text⟩
  | iam names users scope =>
    obtain ⟨ids, hids⟩ := (Environment.exists_accountIds hvalid).2 haccounts
    obtain ⟨home, hhome⟩ := Environment.exists_defaultAccountId.2 hvalid
    refine ⟨_, ?_, .iam (Environment.accountIds_ok.1 hids) (rolesFanOut hhome)⟩
    exact bind_ok.2 ⟨ids, hids, bind_ok.2 ⟨_, ownerRoleArns_ok hhome (howner .role), rfl⟩⟩
  | s3 buckets =>
    obtain ⟨names, hnames⟩ := exists_forall₂_iff.2 fun bucket hbucket =>
      exists_bucketName context fun hmarks => howner .bucket ⟨bucket, hbucket, hmarks⟩
    have hread := mapM_ok.2 (hnames.imp fun _ _ h => h.1)
    have harns : List.Forall₂ BucketArns names (names.map bucketArns) :=
      List.forall₂_map_right_iff.2 (List.forall₂_same.2 fun name _ => bucketArns_spec name)
    exact ⟨_, bind_ok.2 ⟨names, hread, rfl⟩, .s3 (hnames.imp fun _ _ h => h.2) harns⟩
  | kms keys scope =>
    obtain ⟨ids, hids⟩ := (Environment.exists_accountIds hvalid).2 haccounts
    refine ⟨_, ?_, .kms (Environment.accountIds_ok.1 hids)
      (grid_pairs (keyArn_spec context scope.location) ids keys)⟩
    simp only [resolve, resolveKms]
    split
    · next hmarks =>
      obtain ⟨key, hkey, hisOwner⟩ := List.any_eq_true.1 hmarks
      exact bind_ok.2 ⟨(), requireOwner_ok.2 (howner .key ⟨key, hkey, hisOwner⟩),
        bind_ok.2 ⟨ids, hids, rfl⟩⟩
    · exact bind_ok.2 ⟨ids, hids, rfl⟩
  | arn service identities scope =>
    obtain ⟨ids, hids⟩ := (Environment.exists_accountIds hvalid).2 haccounts
    have harns (account identity : String) :
        OtherArn context service scope.location account identity _ := rfl
    exact ⟨_, bind_ok.2 ⟨ids, hids, rfl⟩,
      .arn (Environment.accountIds_ok.1 hids) (grid_pairs harns ids identities)⟩

/-- The owner is named twice among the roles and comes once, at the end and in its own account. -/
theorem resolve_fansOut_roles :
    let environment : Environment :=
      ⟨"main", "eu-west-1", .ofList [("dev", "210987654321"), ("main", "123456789012")]⟩
    let context : Context := ⟨environment, .role, "app"⟩
    let reference := Reference.iam ["role/web", "__self__", "assumed-role/ops", "__self__"]
      ["ann", "bob"] ⟨["dev", ""], none⟩
    environment.Valid ∧ (∀ account ∈ reference.accounts, environment.Knows account) ∧
    (∀ wanted, reference.StandsForOwner wanted → OwnerKind.role = wanted) ∧
    let arns := [
      "arn:aws:iam::210987654321:role/web/ann", "arn:aws:iam::210987654321:role/web/bob",
      "arn:aws:sts::210987654321:assumed-role/ops/ann",
      "arn:aws:sts::210987654321:assumed-role/ops/bob",
      "arn:aws:iam::123456789012:role/web/ann", "arn:aws:iam::123456789012:role/web/bob",
      "arn:aws:sts::123456789012:assumed-role/ops/ann",
      "arn:aws:sts::123456789012:assumed-role/ops/bob",
      "arn:aws:iam::123456789012:role/app/ann", "arn:aws:iam::123456789012:role/app/bob"]
    reference.resolve context = .ok arns ∧ FansOut context reference arns := by
  intro environment context reference
  have hvalid : environment.Valid := ⟨"123456789012", rfl⟩
  have haccounts : ∀ account ∈ reference.accounts, environment.Knows account := by
    simp only [reference, accounts, List.forall_mem_cons]
    exact ⟨.inr ⟨_, rfl⟩, .inl rfl, List.forall_mem_nil _⟩
  have howner : ∀ wanted, reference.StandsForOwner wanted → OwnerKind.role = wanted := by
    rintro (_ | _ | _ | _) hstands
    · rfl
    all_goals exact hstands.elim
  obtain ⟨arns, harns, hfansOut⟩ := resolve_fansOut context reference hvalid haccounts howner
  refine ⟨hvalid, haccounts, howner, ?_⟩
  intro expected
  have hresolve : reference.resolve context = .ok expected := by decide +kernel
  exact ⟨hresolve, Except.ok.inj (harns.symm.trans hresolve) ▸ hfansOut⟩

end Reference

end AccessPolicy
