import Mathlib.Data.List.Nodup
import LineProtocol.Proofs.Server.Jobs

/-!
# How often listeners are closed

A `Ledger` says that every listener that was ever bound was asked to be closed
once, apart from the one that is there, which was not.  It holds as long as no
connection that the server knows has the number of a listener, and it is kept by
every job, and by whatever asks for closes of connections only.
-/

namespace LineProtocol

namespace ServerCore

/-- What was asked of the transport for each listener. -/
structure Ledger
    (known : ChannelId → Prop)
    (core : ServerCore) : Prop where
  older : ∀ id, known id → id.number < core.transport.nextId
  asked : ∀ id, .close id ∈ core.transport.calls → id.number < core.transport.nextId
  listeners :
    ∀ listener ∈ core.transport.listeners,
      listener.id.number < core.transport.nextId ∧ ¬ known listener.id
  distinct : (core.transport.listeners.map (·.id)).Nodup
  present : ∀ listener, core.listener = some listener → listener ∈ core.transport.listeners
  counted :
    ∀ listener ∈ core.transport.listeners,
      core.transport.calls.count (.close listener.id) =
        if core.listener = some listener then 0 else 1

variable
  {known fresh : ChannelId → Prop}
  {before after : ServerCore}

/-- Closes of others do not count. -/
theorem count_append_of_spares
    {calls more : List Call}
    {among : ChannelId → Prop}
    {id : ChannelId}
    (spares : ∀ call ∈ more, call.Spares among)
    (other : ¬ among id) :
    (calls ++ more).count (.close id) = calls.count (.close id) := by
  have none_ : more.count (.close id) = 0 := by
    rw [List.count_eq_zero]
    exact fun member => other (spares _ member id rfl)
  rw [List.count_append, none_, Nat.add_zero]

/-- Connections may come to be known, with new numbers, and may be closed. -/
theorem Ledger.asks
    (ledger : Ledger known before)
    (listener : after.listener = before.listener)
    (asks : Transport.Asks (Call.Spares fresh) before.transport after.transport)
    (new :
      ∀ id, fresh id →
        known id ∨
          (before.transport.nextId ≤ id.number ∧ id.number < after.transport.nextId)) :
    Ledger fresh after := by
  obtain ⟨more, calls, spares⟩ := asks.requests
  have grown := asks.nextId
  have inside : ∀ id, fresh id → id.number < after.transport.nextId := by
    intro id there
    rcases new id there with old | ⟨-, below⟩
    · exact Nat.lt_of_lt_of_le (ledger.older id old) grown
    · exact below
  have apart : ∀ listener ∈ before.transport.listeners, ¬ fresh listener.id := by
    intro listener bound there
    obtain ⟨number, other⟩ := ledger.listeners listener bound
    rcases new _ there with old | ⟨outside, -⟩
    · exact other old
    · exact Nat.lt_irrefl _ (Nat.lt_of_lt_of_le number outside)
  constructor
  · exact inside
  · intro id asked
    rw [calls] at asked
    rcases List.mem_append.mp asked with early | late
    · exact Nat.lt_of_lt_of_le (ledger.asked id early) grown
    · exact inside id (spares _ late id rfl)
  · intro listener bound
    rw [asks.listeners] at bound
    exact ⟨Nat.lt_of_lt_of_le (ledger.listeners listener bound).1 grown, apart listener bound⟩
  · rw [asks.listeners]
    exact ledger.distinct
  · rw [listener, asks.listeners]
    exact ledger.present
  · intro other bound
    rw [asks.listeners] at bound
    rw [calls, listener, count_append_of_spares spares (apart other bound)]
    exact ledger.counted other bound

/-- A listener that was just bound was never closed. -/
theorem Ledger.binds
    {listener : Listener}
    (ledger : Ledger known before)
    (absent : before.listener = none)
    (present : after.listener = some listener)
    (binds : Transport.Binds listener before.transport after.transport) :
    Ledger known after := by
  obtain ⟨more, calls, spares⟩ := binds.requests
  have grown := binds.nextId
  have number : listener.id.number = before.transport.nextId := by rw [binds.id]
  have older : ∀ other ∈ before.transport.listeners, other.id ≠ listener.id := by
    intro other bound same
    have inside := (ledger.listeners other bound).1
    rw [same, number] at inside
    exact Nat.lt_irrefl _ inside
  have split : ∀ other, other ∈ after.transport.listeners ↔
      other ∈ before.transport.listeners ∨ other = listener := by
    intro other
    rw [binds.listeners, List.mem_append, List.mem_singleton]
  constructor
  · exact fun id there => Nat.lt_of_lt_of_le (ledger.older id there) grown
  · intro id asked
    rw [calls] at asked
    rcases List.mem_append.mp asked with early | late
    · exact Nat.lt_of_lt_of_le (ledger.asked id early) grown
    · exact (spares _ late id rfl).elim
  · intro other bound
    rcases (split other).mp bound with old | rfl
    · obtain ⟨inside, apart⟩ := ledger.listeners other old
      exact ⟨Nat.lt_of_lt_of_le inside grown, apart⟩
    · rw [number, binds.fresh]
      refine ⟨Nat.lt_succ_self _, fun there => ?_⟩
      have inside := ledger.older _ there
      rw [number] at inside
      exact Nat.lt_irrefl _ inside
  · rw [binds.listeners, List.map_append, List.map_singleton, List.nodup_append]
    refine ⟨ledger.distinct, List.nodup_singleton _, ?_⟩
    rintro id there other last rfl
    obtain ⟨bound, member, rfl⟩ := List.mem_map.mp there
    exact older bound member (List.mem_singleton.mp last)
  · intro other here
    rw [present] at here
    exact (split other).mpr (.inr (Option.some.inj here).symm)
  · intro other bound
    rw [calls, count_append_of_spares spares not_false, present]
    rcases (split other).mp bound with old | rfl
    · have different : some listener ≠ some other := by
        rintro same
        exact older other old (congrArg Listener.id (Option.some.inj same).symm)
      rw [if_neg different, ledger.counted other old, absent]
      simp
    · rw [if_pos rfl, List.count_eq_zero]
      intro asked
      have inside := ledger.asked _ asked
      rw [number] at inside
      exact Nat.lt_irrefl _ inside

/-- The listener that was there is closed once now, like the others. -/
theorem Ledger.closes
    {listener : Listener}
    (ledger : Ledger known before)
    (present : before.listener = some listener)
    (absent : after.listener = none)
    (closes : after.transport = (before.transport.closeListener listener).2) :
    Ledger known after := by
  obtain ⟨calls, -, -, listeners, -⟩ := before.transport.requestClose_eq listener.id
  have nextId := before.transport.nextId_closeListener listener
  have here := ledger.present listener present
  rw [← Transport.closeListener, ← closes] at calls listeners
  rw [← closes] at nextId
  constructor
  · rw [nextId]
    exact ledger.older
  · intro id asked
    rw [nextId]
    rw [calls, List.mem_append, List.mem_singleton] at asked
    rcases asked with early | last
    · exact ledger.asked id early
    · rw [Call.close.inj last]
      exact (ledger.listeners listener here).1
  · rw [listeners, nextId]
    exact ledger.listeners
  · rw [listeners]
    exact ledger.distinct
  · rw [absent]
    exact fun _ => nofun
  · intro other bound
    rw [listeners] at bound
    have once : (if after.listener = some other then 0 else 1) = 1 := by simp [absent]
    rw [once, calls, List.count_append, ledger.counted other bound, present]
    by_cases same : other = listener
    · rw [same, if_pos rfl, List.count_singleton_self]
    · have different : other.id ≠ listener.id := fun id =>
        same (List.inj_on_of_nodup_map ledger.distinct bound here id)
      rw [if_neg (fun there => same (Option.some.inj there).symm)]
      have uncounted : List.count (Call.close other.id) [.close listener.id] = 0 := by
        rw [List.count_eq_zero, List.mem_singleton]
        exact fun equal => different (Call.close.inj equal)
      rw [uncounted]

theorem Ledger.deals
    {among : ChannelId → Prop}
    (ledger : Ledger known before)
    (deals : Deals among before after)
    (within : ∀ id, among id → known id) :
    Ledger known after := by
  cases deals with
  | asks listener asks =>
      apply ledger.asks listener _ fun id there => .inl there
      exact asks.mono fun call spares id here => within id (spares id here)
  | binds listener absent present binds => exact ledger.binds absent present binds
  | closes listener present absent closes => exact ledger.closes present absent closes

/-- Every job keeps the ledger, as long as it is about connections that the
server knows. -/
theorem Ledger.run
    {core : ServerCore}
    {task : ServerJob}
    (ledger : Ledger known core)
    (holds : ∀ id, core.roster.Holds id → known id)
    (joins : ∀ id, task.Joins id → known id) :
    Ledger known (task.run core).2 := by
  by_cases first : task = .beginShutdown
  · subst first
    have clears := core.clears_beginShutdown.1
    obtain ⟨between, deals, absent, asks⟩ := clears.deals
    apply (ledger.deals deals fun _ => False.elim).asks _ _ fun id there => .inl there
    · exact clears.listener.trans absent.symm
    · refine asks.mono fun call closes id same => ?_
      exact holds id (closes.spares id same)
  · by_cases last : task = .finishShutdown
    · subst last
      obtain ⟨-, listener, -, -, asks⟩ := core.finishShutdown_spec
      apply ledger.asks listener _ fun id there => .inl there
      exact asks.mono fun call none => none.elim
    · apply ledger.deals (core.run_spec first last).2
      rintro id (held | joined)
      · exact holds id held
      · exact joins id joined

end ServerCore

end LineProtocol
