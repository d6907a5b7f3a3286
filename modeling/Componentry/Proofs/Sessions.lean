import Componentry.Proofs.Stepwise
import Componentry.Session

/-!
# Compilations of one session

The compilations of a session share the messages, the counter of generated names and the log. The
counter starts anew for each of them. The log goes on, but no step of a compilation looks at what
has been recorded before.

**The invariant** (`Appends`). With older records in front, a computation comes to the same end, and
leaves the older records in front of the ones it leaves otherwise. This holds whether it gives a
result or is refused half-way.

**Theorem (`appends_source`).** Compiling a source appends to the records.

**Theorem (`compilations_are_independent`).** After any history of a session, refused requests
included, a compilation comes to the same end with the same warnings as in a new session that knows
the same messages, and the log grows by what the new session would record.
-/

namespace Componentry

open CompileM

/-! ## Older records -/

/-- The trace with older records in front of its own. -/
def Trace.behind (t old : Trace) : Trace :=
  { t with log := old.log ++ t.log, warnings := old.warnings ++ t.warnings }

/-- The computation adds to the records and looks at none of them. -/
def Appends {α : Type} (x : CompileM α) : Prop :=
  ∀ old t, runFrom x (t.behind old) = ((runFrom x t).1, (runFrom x t).2.behind old)

/-- **The steps of a compilation append to the records.** -/
theorem stepwise_appends : StepwiseAll (fun _ => True) Appends where
  pure _ _ _ := rfl
  refuse _ _ _ _ := rfl
  conflict _ _ _ := rfl
  fresh _ _ _ := rfl
  step {α β x f} hx hf old t := by
    rw [runFrom_bind, runFrom_bind, hx old t]
    rcases hrun : runFrom x t with ⟨_ | a, t'⟩
    · rfl
    · exact hf a t t' hrun old t'
  record type old t := by
    have hrun (t : Trace) : runFrom (record type) t =
        (.ok (), { t with log := t.log ++ [type.map HostType.fullName] }) := rfl
    rw [hrun, hrun]
    simp only [Trace.behind, List.append_assoc]
  warn w old t := by
    have hrun (t : Trace) : runFrom (warn w) t =
        (.ok (), { t with warnings := t.warnings ++ [w] }) := rfl
    rw [hrun, hrun]
    simp only [Trace.behind, List.append_assoc]

/-- **Compiling a source appends to the records.** -/
theorem Compile.appends_source (known : Messages) (policy : DuplicatePolicy)
    (moduleName : Option String) (text : String) :
    Appends (source known policy moduleName text) := by
  unfold source
  split_ifs
  · exact fun _ _ => rfl
  · split
    · exact fun _ _ => rfl
    · exact stepwise_module stepwise_appends known policy moduleName fun _ _ => trivial

/-! ## Histories -/

namespace Session

/-- A request to a session. -/
inductive Request where
  | message (name : String) (interface : Option String)
  | source (sourcePath moduleName : Option String) (text : String)

/-- The session that a request leaves, whether it is accepted or refused. -/
def after (s : Session) : Request → Session
  | .message name interface => (s.register name interface).2
  | .source sourcePath moduleName text => (s.compile sourcePath moduleName text).2

/-- The session that a history of requests leaves. -/
def afterAll (s : Session) (history : List Request) : Session := history.foldl after s

/-- The messages of a history that a registry accepts, in order. -/
def accepted (known : Messages) : List Request → List (String × Option String)
  | [] => []
  | .source _ _ _ :: rest => accepted known rest
  | .message name interface :: rest =>
    match known.register name interface with
    | .ok (_, known') => (name, interface) :: accepted known' rest
    | .error _ => accepted known rest

/-- A registry that receives messages one after the other, all of which it must accept. -/
def receive (known : Messages) : List (String × Option String) → Except Messages.Error Messages
  | [] => .ok known
  | (name, interface) :: rest => do
    let (_, known) ← known.register name interface
    receive known rest

/-- A session knows the messages that it accepted, and keeps its policy. -/
theorem receive_accepted (history : List Request) (s : Session) :
    receive s.messages (accepted s.messages history) = .ok (s.afterAll history).messages ∧
      (s.afterAll history).policy = s.policy := by
  induction history generalizing s with
  | nil => exact ⟨rfl, rfl⟩
  | cons q rest ih =>
    cases q with
    | source sourcePath moduleName text => exact ih (s.compile sourcePath moduleName text).2
    | message name interface =>
      have hnext := ih (s.register name interface).2
      show receive s.messages (accepted s.messages (.message name interface :: rest)) =
          .ok ((s.register name interface).2.afterAll rest).messages ∧
        ((s.register name interface).2.afterAll rest).policy = s.policy
      unfold accepted
      cases hregister : s.messages.register name interface with
      | error e =>
        rw [show (s.register name interface).2 = s by simp [register, hregister]] at hnext ⊢
        exact hnext
      | ok result =>
        obtain ⟨full, messages⟩ := result
        rw [show (s.register name interface).2 = { s with messages } by
          simp [register, hregister]] at hnext ⊢
        unfold receive
        rw [hregister]
        exact hnext

/-- A compilation in a session, told from one that starts without records. -/
theorem compile_eq (s : Session) (sourcePath moduleName : Option String) (text : String) :
    (s.compile sourcePath moduleName text).1.result =
        (({ s with trace := {} } : Session).compile sourcePath moduleName text).1.result ∧
      (s.compile sourcePath moduleName text).1.warnings =
        (({ s with trace := {} } : Session).compile sourcePath moduleName text).1.warnings ∧
      (s.compile sourcePath moduleName text).2.log = s.log ++
        (({ s with trace := {} } : Session).compile sourcePath moduleName text).2.log := by
  have happends := Compile.appends_source s.messages s.policy
    (Compile.moduleNameFor sourcePath moduleName) text s.trace.renewed {}
  have hstart : s.trace.renewed = Trace.behind {} s.trace.renewed := by
    simp [Trace.behind, Trace.renewed]
  rw [← hstart] at happends
  exact ⟨congrArg (·.1) happends, congrArg (·.2.warnings) happends, congrArg (·.2.log) happends⟩

/-- **Compilations of one session do not influence each other.** -/
theorem compilations_are_independent (s : Session) (history : List Request) :
    ∃ known, receive s.messages (accepted s.messages history) = .ok known ∧
      (∀ sourcePath moduleName text,
        let new : Session := { messages := known, policy := s.policy }
        let here := (s.afterAll history).compile sourcePath moduleName text
        let there := new.compile sourcePath moduleName text
        here.1.result = there.1.result ∧ here.1.warnings = there.1.warnings ∧
          here.2.log = (s.afterAll history).log ++ there.2.log) ∧
      ∀ name interface e, ((s.afterAll history).register name interface).1 = .error e →
        ((s.afterAll history).register name interface).2 = s.afterAll history := by
  obtain ⟨hreceive, hpolicy⟩ := receive_accepted history s
  refine ⟨(s.afterAll history).messages, hreceive, fun sourcePath moduleName text => ?_,
    fun name interface e hrefused => ?_⟩
  · rw [← hpolicy]
    exact compile_eq (s.afterAll history) sourcePath moduleName text
  · unfold register at hrefused ⊢
    split at hrefused
    · exact nomatch hrefused
    · rfl

end Session

end Componentry
