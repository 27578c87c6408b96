import AccessPolicy.Environment
import AccessPolicy.Environment.Reader
import AccessPolicy.Proofs.Lookup
import AccessPolicy.Proofs.Success

/-!
# Accounts of environments

An environment that is accepted has an account of its own (`validate_ok`), however it was made
(`Built.valid`). In such an environment a list of names has ids just if each name is empty or in the
table.
-/

namespace AccessPolicy

/-- An environment with no account but its own. -/
def Environment.main : Environment := ⟨"main", "eu-west-1", .ofList [("main", "123456789012")]⟩

def Context.app : Context := ⟨.main, .role, "app"⟩

-- ---------------------------------------------------------------------------
-- Names of tables
-- ---------------------------------------------------------------------------

theorem Table.pairwise_keys (table : Table α) : table.keys.Pairwise (· < ·) :=
  List.pairwise_map.2 table.ascending

theorem Table.mem_keys_iff {table : Table α} :
    key ∈ table.keys ↔ ∃ value, table.get? key = some value := by
  constructor
  · intro h
    obtain ⟨⟨_, value⟩, hentry, rfl⟩ := List.mem_map.1 h
    exact ⟨value, table.ascending.distinct.find?_of_mem hentry⟩
  · rintro ⟨value, hvalue⟩
    exact List.mem_map.2 ⟨(key, value), Entries.mem_of_find? hvalue, rfl⟩

namespace Environment

inductive Built (environment : Environment) : Prop
  | created {name location : String} {accounts : Entries String}
      (h : (create name location accounts).outcome = .ok environment)
  | read {text : String} (h : (ofText text).outcome = .ok environment)

variable {environment : Environment} {account id : String}

-- ---------------------------------------------------------------------------
-- Ids of accounts
-- ---------------------------------------------------------------------------

theorem accountId_ok :
    environment.accountId account = .ok id ↔ environment.accounts.get? account = some id := by
  rw [accountId]
  cases environment.accounts.get? account <;> simp

def IdOf (environment : Environment) (account id : String) : Prop :=
  environment.accounts.get? (if account = "" then environment.name else account) = some id

/-- The ids that names stand for, that of the environment's own account if there are none. -/
def IdsOf (environment : Environment) (accounts ids : List String) : Prop :=
  List.Forall₂ environment.IdOf (if accounts = [] then [""] else accounts) ids

theorem exists_defaultAccountId : (∃ id, environment.defaultAccountId = .ok id) ↔
    environment.Valid := by
  simp only [defaultAccountId, accountId_ok, Valid]

theorem accountIds_nil (h : environment.defaultAccountId = .ok id) :
    environment.accountIds [] = .ok [id] := by
  show environment.defaultAccountId.map _ = _
  rw [h]
  rfl

theorem idOfName_ok : environment.idOfName account = .ok id ↔ environment.IdOf account id := by
  rw [idOfName, IdOf, defaultAccountId]
  by_cases hempty : account = ""
  · rw [if_pos (String.isEmpty_iff.2 hempty), if_pos hempty, accountId_ok]
  · rw [if_neg (mt String.isEmpty_iff.1 hempty), if_neg hempty, accountId_ok]

theorem idOf_empty : environment.IdOf "" id ↔ environment.defaultAccountId = .ok id := by
  rw [IdOf, if_pos rfl, defaultAccountId, accountId_ok]

theorem accountIds_ok {accounts ids : List String} : environment.accountIds accounts = .ok ids ↔
    environment.IdsOf accounts ids := by
  rw [accountIds, IdsOf]
  by_cases hempty : accounts = []
  · rw [if_pos (List.isEmpty_iff.2 hempty), if_pos hempty, map_ok, defaultAccountId]
    simp only [accountId_ok, List.forall₂_cons_left_iff, List.forall₂_nil_left_iff, IdOf, if_true]
    constructor
    · rintro ⟨id, hid, rfl⟩
      exact ⟨id, [], hid, rfl, rfl⟩
    · rintro ⟨id, _, hid, rfl, rfl⟩
      exact ⟨id, hid, rfl⟩
  · rw [if_neg (mt List.isEmpty_iff.1 hempty), if_neg hempty, mapM_ok]
    simp only [idOfName_ok]

def Knows (environment : Environment) (account : String) : Prop :=
  account = "" ∨ ∃ id, environment.accounts.get? account = some id

theorem exists_idOfName (hvalid : environment.Valid) :
    (∃ id, environment.idOfName account = .ok id) ↔ environment.Knows account := by
  rw [idOfName, Knows]
  split
  · next hempty =>
    exact iff_of_true (exists_defaultAccountId.2 hvalid) (.inl (String.isEmpty_iff.1 hempty))
  · next hnonempty =>
    simp only [accountId_ok]
    exact (or_iff_right (mt String.isEmpty_iff.2 hnonempty)).symm

theorem exists_accountIds {accounts : List String} (hvalid : environment.Valid) :
    (∃ ids, environment.accountIds accounts = .ok ids) ↔
      ∀ account ∈ accounts, environment.Knows account := by
  rw [accountIds]
  split
  · next hempty =>
    obtain ⟨id, hid⟩ := exists_defaultAccountId.2 hvalid
    rw [List.isEmpty_iff.1 hempty]
    exact iff_of_true ⟨[id], map_ok.2 ⟨id, hid, rfl⟩⟩ (List.forall_mem_nil _)
  · simp only [mapM_ok, exists_forall₂_iff, exists_idOfName hvalid]

theorem not_knows_iff :
    ¬environment.Knows account ↔ account ≠ "" ∧ environment.accounts.get? account = none := by
  simp [Knows, Option.eq_none_iff_forall_ne_some]

def Misses (environment : Environment) (account : String) (available : List String) : Prop :=
  ¬environment.Knows account ∧ available = environment.accountNames

theorem misses_of_idOfName (hvalid : environment.Valid)
    (h : environment.idOfName account = .error (.unknownAccount missing available)) :
    account = missing ∧ environment.Misses account available := by
  have hunknown : ¬environment.Knows account := by
    rw [← exists_idOfName hvalid, h]
    rintro ⟨_, ⟨⟩⟩
  have hnonempty : ¬account.isEmpty = true :=
    mt String.isEmpty_iff.1 (not_knows_iff.1 hunknown).1
  rw [idOfName, if_neg hnonempty, accountId, (not_knows_iff.1 hunknown).2] at h
  obtain ⟨rfl, rfl⟩ := PolicyError.unknownAccount.inj (Except.error.inj h)
  exact ⟨rfl, hunknown, rfl⟩

theorem misses_of_accountIds {accounts : List String} (hvalid : environment.Valid)
    (h : environment.accountIds accounts = .error (.unknownAccount account available)) :
    account ∈ accounts ∧ environment.Misses account available := by
  cases hempty : accounts.isEmpty with
  | true =>
    obtain ⟨id, hid⟩ := exists_defaultAccountId.2 hvalid
    rw [List.isEmpty_iff.1 hempty, accountIds_nil hid] at h
    cases h
  | false =>
    simp only [accountIds, hempty, Bool.false_eq_true, if_false] at h
    obtain ⟨listed, hlisted, hfailed⟩ := exists_of_mapM_error h
    obtain ⟨rfl, hmisses⟩ := misses_of_idOfName hvalid hfailed
    exact ⟨hlisted, hmisses⟩

-- ---------------------------------------------------------------------------
-- Accepted environments
-- ---------------------------------------------------------------------------

/-- Accounts with odd ids are reported, and refused for nothing but a missing one. -/
theorem outcome_validate (environment : Environment) :
    environment.validate.outcome = environment.defaultAccountId.map fun _ => () := by
  obtain ⟨reported, hreported⟩ :
      ∃ reported, (Traced.each Traced.emit environment.oddIds).outcome = .ok reported :=
    Traced.each_emit_ok id environment.oddIds
  simp only [validate, Traced.outcome_bind, Traced.outcome_lift, hreported]
  cases environment.defaultAccountId <;> rfl

theorem outcome_create (name location : String) (accounts : Entries String) :
    let environment : Environment := ⟨name, location, Table.ofList accounts⟩
    (create name location accounts).outcome =
      environment.defaultAccountId.map fun _ => environment := by
  intro environment
  simp only [create, Traced.outcome_bind, Traced.outcome_pure, outcome_validate]
  cases environment.defaultAccountId <;> rfl

theorem validate_ok : environment.validate.outcome = .ok () ↔ environment.Valid := by
  simp only [outcome_validate, map_ok, and_true, ← exists_defaultAccountId]

theorem Built.valid (h : environment.Built) : environment.Valid := by
  cases h with
  | created h =>
    simp only [create, Traced.outcome_bind, Traced.outcome_pure, bind_ok] at h
    obtain ⟨⟨⟩, hvalidate, heq⟩ := h
    obtain rfl := Except.ok.inj heq
    exact validate_ok.1 hvalidate
  | read h =>
    unfold ofText at h
    split at h
    · cases h
    · simp only [Traced.outcome_bind, Traced.outcome_pure, bind_ok] at h
      obtain ⟨⟨⟩, hvalidate, heq⟩ := h
      obtain rfl := Except.ok.inj heq
      exact validate_ok.1 hvalidate

end Environment

end AccessPolicy
