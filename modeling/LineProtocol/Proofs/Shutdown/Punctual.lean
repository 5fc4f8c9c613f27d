import LineProtocol.Proofs.Client.Asides
import LineProtocol.Proofs.Server.Asides
import LineProtocol.Proofs.Shutdown.Overtaking

/-!
# Who returns too early

Clients and servers are shut down by any number of callers, whose phases come in
any order.  `shutdown_overtaken_iff` says what both kinds promise: a caller is
held back until the last job ran, and nobody is overtaken unless somebody still
waited for a close at that job.

They do not promise more.  The caller who comes second is told of no close, so he
hands the last job in while the first one waits.
-/

namespace LineProtocol

namespace Closedown

variable {σ core job ρ κ action : Type}

instance
    (closedown : Closedown σ core job ρ κ action)
    (callers : Callers σ κ)
    (caller : Nat) :
    Decidable (closedown.Owed callers caller) :=
  decidable_of_iff
    (∃ closing ∈
        match callers.phases caller with
        | .waiting closings => closings
        | _ => [],
      (closedown.transport (closedown.context callers.session).state).receipts[
        (closedown.ticket closing).number]? = some .waiting)
    (by cases phase : callers.phases caller <;> simp [Owed, phase])

/-- Nobody returns while another caller is owed a close. -/
def Punctual
    (closedown : Closedown σ core job ρ κ action)
    (start : Callers σ κ) :
    Prop :=
  ∀ turns final caller other,
    closedown.run? start turns = some final → final.phases caller = .returned →
      ¬ closedown.Owed final other

theorem not_punctual_of_any
    [DecidableEq κ]
    {closedown : Closedown σ core job ρ κ action}
    {start : Callers σ κ}
    (turns : List (Turn action))
    (caller other : Nat)
    (overtaken :
      (closedown.run? start turns).any fun final =>
        final.phases caller = .returned ∧ closedown.Owed final other) :
    ¬ closedown.Punctual start := by
  obtain ⟨final, ran, late⟩ := (Option.any_eq_true _ _).mp overtaken
  obtain ⟨returned, owed⟩ := of_decide_eq_true late
  intro punctual
  exact punctual turns final caller other ran returned owed

end Closedown

/-- However many callers shut a client or a server down that shares its transport
with others, and in whatever order their phases come: nobody returns before the
last job ran, and somebody can return while another caller waits for an unanswered
close if and only if somebody waits for one when that job is run. -/
theorem shutdown_overtaken_iff
    (names : String × String)
    (clientSettings : ClientSettings)
    (serverSettings : ServerSettings)
    (policy : Option String → IdentityPolicy)
    (seed : Nat)
    (transport : Transport)
    (clientHandler : String → Reaction ClientAction)
    (serverHandler : String → Reaction ServerAction) :
    ClientSession.closedown.HoldsBack
        { session :=
            .start names { clientSettings with engine := .shared } transport
              clientHandler } ∧
      ServerSession.closedown.HoldsBack
        { session :=
            .start names { serverSettings with engine := .shared } policy seed transport
              serverHandler } := by
  constructor
  · exact Closedown.holdsBack ClientSession.closedown_lawful rfl rfl rfl
  · exact Closedown.holdsBack ServerSession.closedown_lawful rfl rfl rfl

/-- Two callers, and a transport that does not answer the close.  The second
caller returns while the first one waits. -/
theorem not_always_punctual :
    (¬ ∀ (names : String × String) (settings : ClientSettings) (transport : Transport)
        (handler : String → Reaction ClientAction),
        ClientSession.closedown.Punctual
          { session :=
              .start names { settings with engine := .shared } transport handler }) ∧
      ¬ ∀ (names : String × String) (settings : ServerSettings)
          (policy : Option String → IdentityPolicy) (seed : Nat) (transport : Transport)
          (handler : String → Reaction ServerAction),
          ServerSession.closedown.Punctual
            { session :=
                .start names { settings with engine := .shared } policy seed transport
                  handler } := by
  constructor
  · intro punctual
    refine Closedown.not_punctual_of_any
      [.aside (.act (.connect "0.0.0.0" 80 (.found []) none false)), .serve, .call 0, .call 1,
        .serve, .serve, .finish 1, .serve, .serve, .leave 1]
      1 0 ?_ (punctual ("client", "crew") {} { closeMode := .hold } fun _ => {})
    decide +kernel
  · intro punctual
    refine Closedown.not_punctual_of_any
      [.aside (.act (.listen 80 none false)), .serve, .call 0, .call 1,
        .serve, .serve, .finish 1, .serve, .serve, .leave 1]
      1 0 ?_ (punctual ("server", "crew") {} (fun _ => .generated) 0 { closeMode := .hold }
        fun _ => {})
    decide +kernel

end LineProtocol
