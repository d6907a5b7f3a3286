import Componentry.Proofs.Yields
import Mathlib.Data.List.Forall2

/-!
# Lists that are related item by item

What one list says about the other. Mapping a step over a list relates its items to the results.
-/

namespace Componentry

section

variable {α β γ : Type} {R : α → β → Prop} {as : List α} {bs : List β}

/-- Every item on the right has one on the left. -/
theorem exists_left_of_mem (h : List.Forall₂ R as bs) {b : β} (hb : b ∈ bs) : ∃ a ∈ as, R a b := by
  induction h with
  | nil => simp at hb
  | cons hR _ ih =>
    rcases List.mem_cons.mp hb with rfl | hb
    · exact ⟨_, List.mem_cons_self, hR⟩
    · obtain ⟨a, ha, hR⟩ := ih hb
      exact ⟨a, List.mem_cons_of_mem _ ha, hR⟩

theorem map_eq_of_forall₂ {f : α → γ} {g : β → γ} (h : List.Forall₂ (fun a b => g b = f a) as bs) :
    bs.map g = as.map f := by
  induction h with
  | nil => rfl
  | cons hab _ ih => rw [List.map_cons, List.map_cons, hab, ih]

/-- What holds between the items of one list in order holds between those of the other. -/
theorem pairwise_of_forall₂ {S : α → α → Prop} {S' : β → β → Prop} (h : List.Forall₂ R as bs)
    (hS : as.Pairwise S) (hR : ∀ a b a' b', R a b → R a' b' → S a a' → S' b b') :
    bs.Pairwise S' := by
  induction h with
  | nil => exact .nil
  | cons hab hrest ih =>
    obtain ⟨hhead, htail⟩ := List.pairwise_cons.mp hS
    refine .cons (fun b' hb' => ?_) (ih htail)
    obtain ⟨a', ha', hab'⟩ := exists_left_of_mem hrest hb'
    exact hR _ _ _ _ hab hab' (hhead a' ha')

end

theorem forall₂_of_yields_mapM {α γ : Type} {f : γ → CompileM α} {cs : List γ} {as : List α}
    {t t' : Trace} (h : Yields (cs.mapM f) t as t') :
    List.Forall₂ (fun c a => ∃ s s', Yields (f c) s a s') cs as := by
  induction cs generalizing t t' as with
  | nil =>
    obtain ⟨rfl, -⟩ := yields_pure.mp h
    exact .nil
  | cons c rest ih =>
    rw [List.mapM_cons] at h
    simp only [yields_bind, yields_pure] at h
    obtain ⟨a, t₁, ha, as', t₂, has, rfl, -⟩ := h
    exact .cons ⟨t, t₁, ha⟩ (ih has)

end Componentry
