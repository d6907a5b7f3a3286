import Componentry.Proofs.NormalForms
import Componentry.Source.Token.Lexer

/-!
# Names of source texts

A name of a source text is brought into its normal form when the text is divided into tokens.

**Theorem (`Lexer.spelled_tokensOf`).** Every name among the tokens of a text is an identifier.
-/

namespace Componentry

/-- What is said of the characters of a list is decided by going through the list, not through all
characters there are. -/
instance (priority := 2000) Text.decidableForallMem (l : List Char) (p : Char → Prop)
    [DecidablePred p] : Decidable (∀ c ∈ l, p c) :=
  List.decidableBAll p l

/-- The text is an identifier. Reserved words are words too. -/
def Text.IsWord (s : String) : Prop := Text.isIdentifier s = true

instance (s : String) : Decidable (Text.IsWord s) := inferInstanceAs (Decidable (_ = true))

namespace Source

open Text (IsWord)

/-- The token is a name that is a word, or anything else. -/
def Lexeme.Spelled : Lexeme → Prop
  | .name id _ => IsWord id
  | _ => True

namespace Lexer

theorem spelled_nameLexeme {id : List Char} {l : Lexeme} (h : nameLexeme id = some l) :
    l.Spelled := by
  unfold nameLexeme at h
  dsimp only at h
  split at h
  · cases h
    trivial
  · split at h
    · next hid =>
      cases h
      exact Text.isIdentifier_normalForm hid
    · cases h

theorem spelled_lexeme? {cs : List Char} {l : Lexeme} {length : Nat}
    (h : lexeme? cs = some (l, length)) : l.Spelled := by
  have hletters {letters : List Char} {k : Nat}
      (h : (nameLexeme letters).map (·, k) = some (l, length)) : l.Spelled := by
    obtain ⟨l', hl', heq⟩ := Option.map_eq_some_iff.1 h
    cases heq
    exact spelled_nameLexeme hl'
  have hname {letters : List Char} {k : Nat}
      (h : (if letters.isEmpty then none else (nameLexeme letters).map (·, k)) = some (l, length)) :
      l.Spelled := by
    split at h
    · cases h
    · exact hletters h
  have hstring {letters : List Char} {quote : Char} {cs : List Char}
      (h : string? letters quote cs = some (l, length)) : l.Spelled := by
    simp only [string?, Option.bind_eq_bind, Option.bind_eq_some_iff, Option.some.injEq] at h
    obtain ⟨kind, -, ⟨body, width⟩, -, h⟩ := h
    cases h
    trivial
  unfold lexeme? at h
  split at h
  · obtain ⟨n, -, heq⟩ := Option.map_eq_some_iff.1 h
    cases heq
    trivial
  · dsimp only at h
    split at h
    · split at h
      · exact hstring h
      · exact hname h
    · split at h
      · exact hstring h
      · exact hname h
    · split at h
      · obtain ⟨⟨s, k⟩, -, heq⟩ := Option.map_eq_some_iff.1 h
        cases heq
        trivial
      · exact hletters h

theorem spelled_closeTo {depth : Depth} {stack stack' : List Depth} {marks : List Lexeme}
    (h : closeTo depth stack = some (marks, stack')) : ∀ l ∈ marks, l.Spelled := by
  induction stack generalizing marks with
  | nil => cases h
  | cons top outer ih =>
    rw [closeTo] at h
    split at h
    · obtain ⟨⟨ls, stack⟩, hls, heq⟩ := Option.map_eq_some_iff.1 h
      cases heq
      intro l hl
      rcases List.mem_cons.1 hl with rfl | hl
      · trivial
      · exact ih hls l hl
    · split at h
      · cases h
        simp
      · cases h

theorem spelled_reindent {depth : Depth} {stack stack' : List Depth} {marks : List Lexeme}
    (h : reindent depth stack = some (marks, stack')) : ∀ l ∈ marks, l.Spelled := by
  unfold reindent at h
  split at h
  · cases h
  · split at h
    · split at h
      · cases h
      · cases h
        simp [Lexeme.Spelled]
    · exact spelled_closeTo h

theorem spelled_markAt {p : Pos} {marks : List Lexeme} (h : ∀ l ∈ marks, l.Spelled) :
    ∀ t ∈ marks.map (markAt p), t.lexeme.Spelled := by
  intro t ht
  obtain ⟨l, hl, rfl⟩ := List.mem_map.1 ht
  exact h l hl

theorem spelled_loop {fuel : Nat} {o : Open} {atStart : Bool} {p : Pos} {cs : List Char}
    {ts : List Token} (h : loop fuel o atStart p cs = some ts) : ∀ t ∈ ts, t.lexeme.Spelled := by
  induction fuel generalizing o atStart p cs ts with
  | zero => cases h
  | succ n ih =>
    cases atStart with
    | true =>
      simp only [loop, Option.bind_eq_bind, Option.bind_eq_some_iff] at h
      obtain ⟨⟨depth, length⟩, -, h⟩ := h
      split at h
      · -- the end of the text
        split at h
        · cases h
        · obtain ⟨⟨marks, stack⟩, hmarks, h⟩ := Option.bind_eq_some_iff.1 h
          cases h
          apply spelled_markAt
          intro l hl
          rcases List.mem_append.1 hl with hl | hl
          · exact spelled_closeTo hmarks l hl
          · obtain rfl := List.mem_singleton.1 hl
            trivial
      · exact ih h
      · exact ih h
      · split at h
        · obtain ⟨⟨marks, depths⟩, hmarks, h⟩ := Option.bind_eq_some_iff.1 h
          obtain ⟨tokens, htokens, h⟩ := Option.bind_eq_some_iff.1 h
          cases h
          intro t ht
          rcases List.mem_append.1 ht with ht | ht
          · exact spelled_markAt (spelled_reindent hmarks) t ht
          · exact ih htokens t ht
        · exact ih h
    | false =>
      simp only [loop] at h
      split at h
      · split at h
        · cases h
          intro t ht
          obtain rfl := List.mem_singleton.1 ht
          trivial
        · cases h
      · split at h
        · obtain ⟨tokens, htokens, rfl⟩ := Option.map_eq_some_iff.1 h
          intro t ht
          rcases List.mem_cons.1 ht with rfl | ht
          · trivial
          · exact ih htokens t ht
        · exact ih h
      · exact ih h
      · exact ih h
      · simp only [Option.bind_eq_bind, Option.bind_eq_some_iff] at h
        obtain ⟨⟨lexeme, length⟩, hlexeme, h⟩ := h
        have hcons {o' : Open} {stop : Pos} {rest : List Char} {span : Span}
            (h : ((loop n o' false stop rest).bind fun tokens => some (⟨lexeme, span⟩ :: tokens)) =
              some ts) : ∀ t ∈ ts, t.lexeme.Spelled := by
          obtain ⟨tokens, htokens, h⟩ := Option.bind_eq_some_iff.1 h
          cases h
          intro t ht
          rcases List.mem_cons.1 ht with rfl | ht
          · exact spelled_lexeme? hlexeme
          · exact ih htokens t ht
        dsimp only at h
        split at h
        · obtain ⟨o', -, h⟩ := Option.bind_eq_some_iff.1 h
          exact hcons h
        · exact hcons h

theorem spelled_tokensOf {cs : List Char} {ts : List Token} (h : tokensOf cs = some ts) :
    ∀ t ∈ ts, t.lexeme.Spelled :=
  spelled_loop h

end Lexer

end Source

end Componentry
