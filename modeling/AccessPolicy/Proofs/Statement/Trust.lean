import AccessPolicy.Proofs.Compile.Admissible
import AccessPolicy.Proofs.Statement.Rendered

/-!
# Trust statements render like policies of resources

The action that a trust statement is given could as well have been in the statement
(`renderTrust_ok`), where it stands beside no other (`acted_unambiguous`).
-/

namespace AccessPolicy

/-- The statement with the action that it is given as a trust statement. -/
def PolicyStatement.acted (policy : PolicyStatement)
    (principal notPrincipal : Option PrincipalEntry) : PolicyStatement :=
  match policy.defaultAction? principal notPrincipal with
  | none => policy
  | some action => { policy with body := { policy.body with action := [action] } }

section
variable {policy : PolicyStatement} {principal notPrincipal : Option PrincipalEntry}

theorem merged_ok : policy.merged = .ok (principal, notPrincipal) ↔
    PrincipalEntry.merge policy.principal = .ok principal ∧
      PrincipalEntry.merge policy.notPrincipal = .ok notPrincipal := by
  simp only [PolicyStatement.merged, bind_ok, Except.ok.injEq, Prod.mk.injEq]
  constructor
  · rintro ⟨_, hprincipal, _, hnotPrincipal, rfl, rfl⟩
    exact ⟨hprincipal, hnotPrincipal⟩
  · rintro ⟨hprincipal, hnotPrincipal⟩
    exact ⟨principal, hprincipal, notPrincipal, hnotPrincipal, rfl, rfl⟩

theorem merged_none (h : policy.merged = .ok (principal, notPrincipal))
    (hone : policy.principal = [] ∨ policy.notPrincipal = []) :
    principal = none ∨ notPrincipal = none := by
  obtain ⟨hprincipal, hnotPrincipal⟩ := merged_ok.1 h
  refine hone.imp (fun hnil => ?_) (fun hnil => ?_)
  · rw [hnil] at hprincipal
    exact (Except.ok.inj hprincipal).symm
  · rw [hnil] at hnotPrincipal
    exact (Except.ok.inj hnotPrincipal).symm

theorem put_action (policy : PolicyStatement) (principal notPrincipal : Option PrincipalEntry)
    (action : String) :
    (policy.renderWith principal notPrincipal).put "Action" (.str action) =
      PolicyStatement.renderWith { policy with body := { policy.body with action := [action] } }
        principal notPrincipal := by
  apply Entries.eq_of_find?_eq ((Entries.ascending_ordered _).put _ _) (Entries.ascending_ordered _)
  intro key
  rw [Entries.find?_put]
  refine Eq.trans ?_ (find?_renderWith _ principal notPrincipal).symm
  split
  · next hkey =>
    subst hkey
    rfl
  · next hkey =>
    refine (find?_renderWith policy principal notPrincipal).trans ?_
    simp [PolicyStatement.slots, PolicyBody.slots, Entries.find?_cons, hkey]

theorem renderTrust_ok : policy.renderTrust.outcome = .ok members ↔ ∃ principal notPrincipal,
    policy.merged = .ok (principal, notPrincipal) ∧
      members = (policy.acted principal notPrincipal).renderWith principal notPrincipal := by
  -- an action that is put into the rendered members could as well have been in the statement
  have hacted (principal notPrincipal : Option PrincipalEntry) :
      Traced.outcome (match policy.defaultAction? principal notPrincipal with
        | none => pure (policy.renderWith principal notPrincipal)
        | some action => do
          Traced.emit (.trustActionDefaulted action)
          pure ((policy.renderWith principal notPrincipal).put "Action" (.str action))) =
        .ok ((policy.acted principal notPrincipal).renderWith principal notPrincipal) := by
    rw [PolicyStatement.acted]
    cases policy.defaultAction? principal notPrincipal with
    | none => rfl
    | some action => exact congrArg Except.ok (put_action policy principal notPrincipal action)
  simp only [PolicyStatement.renderTrust, Traced.outcome_bind, Traced.outcome_lift, bind_ok,
    Prod.exists]
  constructor
  · rintro ⟨principal, notPrincipal, hmerged, hmembers⟩
    exact ⟨principal, notPrincipal, hmerged,
      Except.ok.inj (hmembers.symm.trans (hacted principal notPrincipal))⟩
  · rintro ⟨principal, notPrincipal, hmerged, rfl⟩
    exact ⟨principal, notPrincipal, hmerged, hacted principal notPrincipal⟩

theorem defaultAction?_acted :
    (policy.acted principal notPrincipal).defaultAction? principal notPrincipal = none := by
  rw [PolicyStatement.acted]
  split
  · next hnone => exact hnone
  · exact if_pos rfl

theorem acted_principals (policy : PolicyStatement)
    (principal notPrincipal : Option PrincipalEntry) :
    (policy.acted principal notPrincipal).principal = policy.principal ∧
      (policy.acted principal notPrincipal).notPrincipal = policy.notPrincipal := by
  rw [PolicyStatement.acted]
  split <;> exact ⟨rfl, rfl⟩

theorem merged_acted (h : policy.merged = .ok (principal, notPrincipal)) :
    (policy.acted principal notPrincipal).merged = .ok (principal, notPrincipal) := by
  obtain ⟨hsame, hsameNot⟩ := acted_principals policy principal notPrincipal
  rw [merged_ok, hsame, hsameNot]
  exact merged_ok.1 h

theorem acted_unambiguous (h : policy.body.Unambiguous) :
    (policy.acted principal notPrincipal).body.Unambiguous := by
  rw [PolicyStatement.acted]
  split
  · exact h
  · next action haction =>
    refine ⟨.inr ?_, h.2⟩
    rw [PolicyStatement.defaultAction?] at haction
    split at haction
    · cases haction
    · next hplain =>
      rw [PolicyBody.hasAction, Bool.or_eq_true, not_or] at hplain
      simpa using hplain.2

theorem acted_admissible
    (h : policy.body.Unambiguous ∧ (policy.principal = [] ∨ policy.notPrincipal = [])) :
    (policy.acted principal notPrincipal).body.Unambiguous ∧
      ((policy.acted principal notPrincipal).principal = [] ∨
        (policy.acted principal notPrincipal).notPrincipal = []) := by
  obtain ⟨hsame, hsameNot⟩ := acted_principals policy principal notPrincipal
  rw [hsame, hsameNot]
  exact ⟨acted_unambiguous h.1, h.2⟩

end

end AccessPolicy
