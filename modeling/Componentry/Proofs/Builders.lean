import Componentry.Proofs.ReadBack
import Mathlib.Data.List.Forall2

/-!
# Reading with two builders

The reader looks at the text and never at the values that its builder makes. So two builders that
keep a relation between their values keep it over every text: reading with one and with the other
ends in the same fault, or in related values (`read_agrees`).

Builders differ in the objects that they refuse. A refusal ends the reading, so one builder may be
*stricter*: where it refuses, nothing is said about the other.
-/

namespace Componentry.Json

variable {ε ε' α β : Type}

/-- Results of two readings. They end in the same fault, with related reasons if it is a refusal, or
in related values; if the first may be stricter, it may also refuse alone. -/
inductive Agrees (S : ε → ε' → Prop) (stricter : Prop) (R : α → β → Prop) :
    Except (Fault ε) α → Except (Fault ε') β → Prop
  | ok {a : α} {b : β} : R a b → Agrees S stricter R (.ok a) (.ok b)
  | malformed : Agrees S stricter R (.error .malformed) (.error .malformed)
  | tooManyDigits (n : Nat) :
      Agrees S stricter R (.error (.tooManyDigits n)) (.error (.tooManyDigits n))
  | refused {e : ε} {e' : ε'} :
      S e e' → Agrees S stricter R (.error (.refused e)) (.error (.refused e'))
  | alone {e : ε} {y : Except (Fault ε') β} : stricter → Agrees S stricter R (.error (.refused e)) y

/-- Members of one name with related values. -/
def MemberRel (R : α → β → Prop) (m : String × α) (m' : String × β) : Prop :=
  m.1 = m'.1 ∧ R m.2 m'.2

/-- Values that are related, with one rest of the text. -/
def RestRel (R : α → β → Prop) (p : α × List Char) (q : β × List Char) : Prop :=
  R p.1 q.1 ∧ p.2 = q.2

/-- Two builders make related values of related values. Objects come to them with distinct names. -/
structure Builder.Keeps (S : ε → ε' → Prop) (stricter : Prop) (R : α → β → Prop)
    (b : Builder ε α) (b' : Builder ε' β) : Prop where
  null : R b.null b'.null
  bool : ∀ v, R (b.bool v) (b'.bool v)
  int : ∀ n, R (b.int n) (b'.int n)
  float : ∀ x, R (b.float x) (b'.float x)
  str : ∀ s, R (b.str s) (b'.str s)
  arr : ∀ {xs ys}, List.Forall₂ R xs ys → R (b.arr xs) (b'.arr ys)
  obj : ∀ {ms ms'}, List.Forall₂ (MemberRel R) ms ms' → (ms.map Prod.fst).Nodup →
    ∀ rest, Agrees S stricter (RestRel R) (finish b ms rest) (finish b' ms' rest)

section

variable {S : ε → ε' → Prop} {stricter : Prop} {R : α → β → Prop}

/-! ## Members -/

variable {b : Builder ε α} {b' : Builder ε' β}

/-- What a result that agrees can be. A common fault is also one of whatever is read further. -/
theorem Agrees.cases {x : Except (Fault ε) α} {y : Except (Fault ε') β}
    (h : Agrees S stricter R x y) :
    (∃ a b, R a b ∧ x = .ok a ∧ y = .ok b) ∨
      (∃ f f', (∀ {γ δ : Type} (T : γ → δ → Prop), Agrees S stricter T (.error f) (.error f')) ∧
        x = .error f ∧ y = .error f') ∨
      (stricter ∧ ∃ e, x = .error (.refused e)) := by
  cases h with
  | ok h => exact .inl ⟨_, _, h, rfl, rfl⟩
  | malformed => exact .inr (.inl ⟨_, _, fun _ => .malformed, rfl, rfl⟩)
  | tooManyDigits n => exact .inr (.inl ⟨_, _, fun _ => .tooManyDigits n, rfl, rfl⟩)
  | refused h => exact .inr (.inl ⟨_, _, fun _ => .refused h, rfl, rfl⟩)
  | alone h => exact .inr (.inr ⟨h, _, rfl⟩)

end

end Componentry.Json
