import LineProtocol.Connection.State

/-!
# The table of a client's connection

The table has one row for each event: the states in which the event has a place,
and the state to which it leads.  Where it leads depends on the event alone.

`ConnectionState.after?` goes by the states instead; `after?_eq_some_iff` says that
both are the same table.
-/

namespace LineProtocol

/-- The event has a place in the state. -/
def ConnectionEvent.Fits : ConnectionEvent → ConnectionState → Prop
  | .connectRequested, state => state = .disconnected ∨ state.isFailed = true
  | .established, state => state = .connecting
  | .connectFailed _, state => state = .connecting
  | .disconnectRequested, state =>
      state = .connecting ∨ state = .connected ∨ state.isFailed = true
  | .closed, state => state = .connected ∨ state.isFailed = true ∨ state = .disconnecting
  | .broke _, _ => True

/-- Where the event leads. -/
def ConnectionEvent.target : ConnectionEvent → ConnectionState
  | .connectRequested => .connecting
  | .established => .connected
  | .connectFailed cause => .failed cause
  | .disconnectRequested => .disconnecting
  | .closed => .disconnected
  | .broke cause => .failed cause

namespace ConnectionState

/-- One state can come right after the other. -/
def Leads (state next : ConnectionState) : Prop :=
  ∃ event : ConnectionEvent, event.Fits state ∧ event.target = next

theorem after?_eq_some_iff
    (state : ConnectionState)
    (event : ConnectionEvent)
    (next : ConnectionState) :
    state.after? event = some next ↔ event.Fits state ∧ event.target = next := by
  cases state <;> cases event <;>
    simp [after?, ConnectionEvent.Fits, ConnectionEvent.target, isFailed, cause?]

theorem after?_eq_none_iff
    (state : ConnectionState)
    (event : ConnectionEvent) :
    state.after? event = none ↔ ¬ event.Fits state := by
  rw [Option.eq_none_iff_forall_ne_some]
  constructor
  · intro nowhere fits
    exact nowhere _ ((after?_eq_some_iff state event event.target).mpr ⟨fits, rfl⟩)
  · intro misfit next leads
    exact misfit ((after?_eq_some_iff state event next).mp leads).1

/-! ## What comes before and after some states -/

theorem eq_connecting_of_leads_connected
    {state : ConnectionState}
    (leads : state.Leads .connected) :
    state = .connecting := by
  obtain ⟨event, fits, goes⟩ := leads
  cases event with
  | established => exact fits
  | _ => exact nomatch goes

theorem of_leads_connecting
    {state : ConnectionState}
    (leads : state.Leads .connecting) :
    state = .disconnected ∨ ∃ cause, state = .failed cause := by
  obtain ⟨event, fits, goes⟩ := leads
  cases event with
  | connectRequested =>
      refine fits.imp_right fun failed => ?_
      cases state with
      | failed cause => exact ⟨cause, rfl⟩
      | _ => exact nomatch failed
  | _ => exact nomatch goes

theorem of_leads_of_failed
    {cause : Fault}
    {next : ConnectionState}
    (leads : Leads (.failed cause) next) :
    next = .connecting ∨ next = .disconnecting ∨ next = .disconnected ∨
      ∃ other, next = .failed other := by
  obtain ⟨event, fits, rfl⟩ := leads
  cases event with
  | established => exact nomatch fits
  | connectFailed other => exact nomatch fits
  | connectRequested => exact .inl rfl
  | disconnectRequested => exact .inr (.inl rfl)
  | closed => exact .inr (.inr (.inl rfl))
  | broke other => exact .inr (.inr (.inr ⟨other, rfl⟩))

end ConnectionState

end LineProtocol
