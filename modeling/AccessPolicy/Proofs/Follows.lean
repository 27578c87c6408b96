import Mathlib.Data.List.Perm.Basic
import AccessPolicy.Proofs.Success

/-!
# Work that succeeds where other work does

`Follows` compares two pieces of work by their results, and says nothing of their errors. Work on a
list may come in another order (`Rearranged`), since an element is not affected by those before it.
-/

namespace AccessPolicy

/-- Whenever the first work succeeds the second one does, with a related result. -/
def Follows (R : α → β → Prop) (first : Except ε α) (second : Except δ β) : Prop :=
  ∀ a, first = .ok a → ∃ b, second = .ok b ∧ R a b

section
variable {R : α → β → Prop} {S : γ → ζ → Prop} {first : Except ε α} {second : Except δ β}

theorem follows_ok (h : R a b) : Follows R (.ok a : Except ε α) (.ok b : Except δ β) := by
  rintro _ ⟨⟩
  exact ⟨b, rfl, h⟩

theorem follows_error : Follows R (.error e : Except ε α) second := fun _ h => nomatch h

theorem follows_self {R : α → α → Prop} (h : ∀ a, R a a) : Follows R first first :=
  fun a ha => ⟨a, ha, h a⟩

theorem Follows.bind {next : α → Except ε γ} {other : β → Except δ ζ} (h : Follows R first second)
    (hnext : ∀ a b, R a b → Follows S (next a) (other b)) :
    Follows S (first >>= next) (second >>= other) := by
  intro c hc
  obtain ⟨a, ha, hc⟩ := bind_ok.1 hc
  obtain ⟨b, hb, hab⟩ := h a ha
  obtain ⟨d, hd, hcd⟩ := hnext a b hab c hc
  exact ⟨d, bind_ok.2 ⟨b, hb, hd⟩, hcd⟩

theorem follows_bind {next : α → Except ε γ} {other : α → Except ε ζ}
    (h : ∀ a, Follows S (next a) (other a)) : Follows S (first >>= next) (first >>= other) :=
  (follows_self fun _ => rfl).bind fun a _ hsame => hsame ▸ h a

theorem Follows.map {f : α → γ} {g : β → ζ} (h : Follows R first second)
    (hmap : ∀ a b, R a b → S (f a) (g b)) : Follows S (first.map f) (second.map g) := by
  intro c hc
  obtain ⟨a, ha, rfl⟩ := map_ok.1 hc
  obtain ⟨b, hb, hab⟩ := h a ha
  exact ⟨g b, map_ok.2 ⟨b, hb, rfl⟩, hmap a b hab⟩

end

-- ---------------------------------------------------------------------------
-- Lists in another order
-- ---------------------------------------------------------------------------

/-- Lists with related elements, in any order. -/
def Rearranged (R : α → β → Prop) : List α → List β → Prop :=
  Relation.Comp (List.Forall₂ R) List.Perm

section
variable {R : α → β → Prop} {S : γ → ζ → Prop}

theorem rearranged_eq {others : List α} : Rearranged Eq items others ↔ items.Perm others := by
  rw [Rearranged, List.forall₂_eq_eq_eq, Relation.eq_comp]

theorem rearranged_of_forall₂ (h : List.Forall₂ R as bs) : Rearranged R as bs :=
  ⟨bs, h, .refl bs⟩

theorem Rearranged.imp {R S : α → β → Prop} (hRS : ∀ a b, R a b → S a b)
    (h : Rearranged R as bs) : Rearranged S as bs := by
  obtain ⟨between, has, hperm⟩ := h
  exact ⟨between, has.imp hRS, hperm⟩

theorem Rearranged.symm {R : α → α → Prop} (hR : ∀ a b, R a b → R b a)
    (h : Rearranged R as bs) : Rearranged R bs as := by
  obtain ⟨between, has, hperm⟩ := h
  have hback : List.Forall₂ R between as := has.flip.imp fun a b => hR b a
  obtain ⟨later, hlater, hsame⟩ := List.perm_comp_forall₂ hperm.symm hback
  exact ⟨later, hlater, hsame⟩

theorem Rearranged.exists_mem_iff {P : α → Prop} {Q : β → Prop} (h : Rearranged R as bs)
    (hPQ : ∀ a ∈ as, ∀ b, R a b → (P a ↔ Q b)) : (∃ a ∈ as, P a) ↔ ∃ b ∈ bs, Q b := by
  obtain ⟨between, has, hperm⟩ := h
  have hmem : List.Forall₂ (fun a b => a ∈ as ∧ R a b) as between :=
    (List.forall₂_and_left as between).2 ⟨fun _ ha => ha, has⟩
  rw [exists_mem_iff_of_forall₂ hmem fun a b ⟨ha, hab⟩ => hPQ a ha b hab]
  simp only [hperm.mem_iff]

theorem Rearranged.map_perm {f : α → γ} {g : β → γ} (h : Rearranged R as bs)
    (hfg : ∀ a b, R a b → f a = g b) : (as.map f).Perm (bs.map g) := by
  obtain ⟨between, has, hperm⟩ := h
  have hsame : as.map f = between.map g := by
    rw [← List.forall₂_eq_eq_eq, List.forall₂_map_left_iff, List.forall₂_map_right_iff]
    exact has.imp hfg
  rw [hsame]
  exact hperm.map g

theorem Rearranged.flatten (h : Rearranged List.Perm as bs) :
    as.flatten.Perm (bs.flatten : List α) := by
  obtain ⟨between, has, hperm⟩ := h
  exact (List.Perm.flatten_congr has).trans hperm.flatten

theorem follows_mapM_forall₂ {f : α → Except ε γ} {g : β → Except ε ζ}
    (h : ∀ a b, R a b → Follows S (f a) (g b)) (hab : List.Forall₂ R as bs) :
    Follows (List.Forall₂ S) (as.mapM f) (bs.mapM g) := by
  induction hab with
  | nil => exact follows_ok .nil
  | cons hhead _ ih =>
    rw [List.mapM_cons, List.mapM_cons]
    refine (h _ _ hhead).bind fun c d hcd => ih.bind fun cs ds hrest => ?_
    exact follows_ok (.cons hcd hrest)

theorem follows_mapM_perm {as bs : List α} {f : α → Except ε β} (h : as.Perm bs) :
    Follows List.Perm (as.mapM f) (bs.mapM f) := by
  intro results hresults
  obtain ⟨others, hothers, hperm⟩ := List.perm_comp_forall₂ h.symm (mapM_ok.1 hresults)
  exact ⟨others, mapM_ok.2 hothers, hperm.symm⟩

theorem Rearranged.follows_mapM {f : α → Except ε γ} {g : β → Except ε ζ}
    (hab : Rearranged R as bs) (h : ∀ a b, R a b → Follows S (f a) (g b)) :
    Follows (Rearranged S) (as.mapM f) (bs.mapM g) := by
  obtain ⟨between, has, hperm⟩ := hab
  intro results hresults
  obtain ⟨others, hothers, hrelated⟩ := follows_mapM_forall₂ h has results hresults
  obtain ⟨later, hlater, hsame⟩ := follows_mapM_perm hperm others hothers
  exact ⟨later, hlater, others, hrelated, hsame⟩

theorem Rearranged.follows_mapM_eq {f : α → Except ε γ} {g : β → Except ε γ}
    (hab : Rearranged R as bs) (h : ∀ a b, R a b → Follows Eq (f a) (g b)) :
    Follows List.Perm (as.mapM f) (bs.mapM g) := by
  intro results hresults
  obtain ⟨others, hothers, hsame⟩ := hab.follows_mapM h results hresults
  exact ⟨others, hothers, rearranged_eq.1 hsame⟩

end

end AccessPolicy
