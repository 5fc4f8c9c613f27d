import Mathlib.Data.List.Perm.Basic
import LineProtocol.Server.Roster

/-!
# Who is on the roster

Each change of the roster says who is on it afterwards.  A roster is `Orderly`
if everybody on it has a place in the order, so that whoever takes all clients
out gets everybody.  A roster that is being shut down is `Drained`: nobody is on
it and nobody gets on it, and only the end of the shutdown publishes a state.

A roster is `Shown` if what it publishes is what it knows.  It is so after every
change.
-/

namespace LineProtocol

namespace Table

variable {κ ν : Type} [DecidableEq κ]

theorem keys_erase
    (table : Table κ ν)
    (key : κ) :
    (table.erase key).entries.map Prod.fst =
      (table.entries.map Prod.fst).filter (· ≠ key) := by
  rw [erase, List.filter_map]
  rfl

theorem notMem_keys_of_find?
    {table : Table κ ν}
    {key : κ}
    (absent : table.find? key = none) :
    key ∉ table.entries.map Prod.fst := by
  rw [find?, Option.map_eq_none_iff, List.find?_eq_none] at absent
  rintro there
  obtain ⟨entry, member, same⟩ := List.mem_map.mp there
  exact absent entry member (by simpa using same)

end Table

namespace Roster

/-- A connection belongs to somebody on the roster. -/
def Holds
    (roster : Roster)
    (id : ChannelId) :
    Prop :=
  ∃ identity member, roster.member? identity = some member ∧ member.channel = id

/-- Everybody on the roster has a place in the order. -/
def Orderly (roster : Roster) : Prop :=
  ∀ identity member, roster.member? identity = some member → identity ∈ roster.order

/-! ## Publishing -/

/-- What publishing the state leaves alone, and what it shows. -/
theorem publishState_cases (roster : Roster) :
    roster.publishState = roster ∨
      roster.publishState =
        { roster with state := roster.state.publish roster.currentState } := by
  rw [publishState]
  split
  · exact .inr rfl
  · exact .inl rfl

@[simp]
theorem member?_publishState
    (roster : Roster)
    (identity : Identity) :
    roster.publishState.member? identity = roster.member? identity := by
  rw [member?, members_publishState]
  rfl

@[simp]
theorem member?_publishIdentities
    (roster : Roster)
    (identity : Identity) :
    roster.publishIdentities.member? identity = roster.member? identity :=
  rfl

@[simp]
theorem order_publishIdentities (roster : Roster) :
    roster.publishIdentities.order = roster.order :=
  rfl

@[simp]
theorem shuttingDown_publishState (roster : Roster) :
    roster.publishState.shuttingDown = roster.shuttingDown := by
  rcases roster.publishState_cases with same | published
  · rw [same]
  · rw [published]

@[simp]
theorem identities_publishState (roster : Roster) :
    roster.publishState.identities = roster.identities := by
  rcases roster.publishState_cases with same | published
  · rw [same]
  · rw [published]

theorem currentState_of_shutting
    {roster : Roster}
    (shutting : roster.shuttingDown = true) :
    roster.currentState = .shuttingDown := by
  simp [currentState, ListeningState.derive, shutting]

/-- A shutdown that is shown is not shown again. -/
theorem publishState_of_shutting
    {roster : Roster}
    (shutting : roster.shuttingDown = true)
    (shown : roster.state.value = .shuttingDown) :
    roster.publishState = roster := by
  simp [publishState, currentState_of_shutting shutting, shown, ListeningState.cause?]

/-! ## Changes -/

theorem add_cases
    (roster : Roster)
    (member : Member) :
    (∃ cause, roster.add member = (.error cause, roster)) ∨
      (roster.shuttingDown = false ∧ roster.member? member.identity = none ∧
        roster.add member =
          (.ok member.identity,
            publishIdentities <| publishState
              { roster with
                members := roster.members.insert member.identity member
                order := roster.order ++ [member.identity] })) := by
  rw [add]
  split
  · exact .inl ⟨_, rfl⟩
  · rename_i open_
    split
    · exact .inl ⟨_, rfl⟩
    · rename_i absent
      exact .inr ⟨by simpa using open_, by simpa using absent, rfl⟩

/-- Whoever is not there yet is added, as long as clients are let in. -/
theorem add_of_absent
    {roster : Roster}
    {member : Member}
    (running : roster.shuttingDown = false)
    (absent : roster.member? member.identity = none) :
    roster.add member =
      (.ok member.identity,
        publishIdentities <| publishState
          { roster with
            members := roster.members.insert member.identity member
            order := roster.order ++ [member.identity] }) := by
  simp [add, running, absent]

theorem remove_cases
    (roster : Roster)
    (identity : Identity)
    (channel : ChannelId) :
    roster.remove identity channel = (none, roster) ∨
      ∃ member,
        roster.member? identity = some member ∧ member.channel = channel ∧
          roster.remove identity channel =
            (some member,
              publishIdentities <| publishState
                { roster with
                  members := roster.members.erase identity
                  order := roster.order.filter (· ≠ identity) }) := by
  rw [remove]
  split
  · exact .inl rfl
  · rename_i member found
    split
    · rename_i same
      exact .inr ⟨member, found, same, rfl⟩
    · exact .inl rfl

/-! ### Who is there afterwards -/

theorem member?_added
    (roster : Roster)
    (member : Member)
    (identity : Identity) :
    (publishIdentities <| publishState
        { roster with
          members := roster.members.insert member.identity member
          order := roster.order ++ [member.identity] }).member? identity =
      if identity = member.identity then some member else roster.member? identity := by
  rw [member?_publishIdentities, member?_publishState]
  exact roster.members.find?_insert member.identity identity member

theorem member?_removed
    (roster : Roster)
    (identity other : Identity) :
    (publishIdentities <| publishState
        { roster with
          members := roster.members.erase identity
          order := roster.order.filter (· ≠ identity) }).member? other =
      if other = identity then none else roster.member? other := by
  rw [member?_publishIdentities, member?_publishState]
  exact roster.members.find?_erase identity other

/-- Whoever is added is held from then on, and nobody else. -/
theorem holds_add_iff
    {roster : Roster}
    {member : Member}
    {identity : Identity}
    (added : (roster.add member).1 = .ok identity)
    (id : ChannelId) :
    (roster.add member).2.Holds id ↔ roster.Holds id ∨ id = member.channel := by
  rcases roster.add_cases member with ⟨cause, refused⟩ | ⟨-, absent, whole⟩
  · simp [refused] at added
  · rw [whole]
    simp only [Holds, member?_added]
    constructor
    · rintro ⟨other, there, found, about⟩
      split at found
      · obtain rfl := Option.some.inj found
        exact .inr about.symm
      · exact .inl ⟨other, there, found, about⟩
    · rintro (⟨other, there, found, about⟩ | rfl)
      · have different : other ≠ member.identity := by
          rintro rfl
          simp [absent] at found
        exact ⟨other, there, by rw [if_neg different, found], about⟩
      · exact ⟨member.identity, member, if_pos rfl, rfl⟩

/-- Nobody comes to be held. -/
theorem holds_of_remove
    {roster : Roster}
    {identity : Identity}
    {channel id : ChannelId}
    (held : (roster.remove identity channel).2.Holds id) :
    roster.Holds id := by
  rcases roster.remove_cases identity channel with same | ⟨member, -, -, removed⟩
  · rwa [same] at held
  · obtain ⟨other, there, found, about⟩ := held
    rw [removed] at found
    simp only [member?_removed] at found
    split at found
    · simp at found
    · exact ⟨other, there, found, about⟩

/-- Only the connection that is named loses its place. -/
theorem holds_remove
    {roster : Roster}
    {id : ChannelId}
    (held : roster.Holds id)
    (identity : Identity)
    (channel : ChannelId) :
    (roster.remove identity channel).2.Holds id ∨ id = channel := by
  obtain ⟨other, there, found, about⟩ := held
  rcases roster.remove_cases identity channel with same | ⟨member, named, theirs, removed⟩
  · rw [same]
    exact .inl ⟨other, there, found, about⟩
  · by_cases mine : other = identity
    · subst mine
      rw [found] at named
      obtain rfl := Option.some.inj named
      exact .inr (about.symm.trans theirs)
    · rw [removed]
      refine .inl ⟨other, there, ?_, about⟩
      rw [member?_removed, if_neg mine]
      exact found

/-- Where the clients stay and the state is published. -/
theorem holds_publishState_iff
    {before after : Roster}
    (members : after.members = before.members)
    (id : ChannelId) :
    after.publishState.Holds id ↔ before.Holds id := by
  have found : ∀ identity, after.publishState.member? identity = before.member? identity := by
    intro identity
    rw [member?_publishState, member?, members]
    rfl
  simp only [Holds, found]

/-! ### In order -/

theorem Orderly.publishState
    {before after : Roster}
    (orderly : before.Orderly)
    (members : after.members = before.members)
    (order : after.order = before.order) :
    after.publishState.Orderly := by
  intro identity member found
  rw [member?_publishState, member?, members] at found
  rw [order_publishState, order]
  exact orderly identity member found

theorem Orderly.add
    {roster : Roster}
    (orderly : roster.Orderly)
    (member : Member) :
    (roster.add member).2.Orderly := by
  rcases roster.add_cases member with ⟨cause, refused⟩ | ⟨-, -, added⟩
  · rw [refused]
    exact orderly
  · rw [added]
    intro identity other found
    simp only [member?_added] at found
    simp only [order_publishIdentities, order_publishState, List.mem_append,
      List.mem_singleton]
    split at found
    · rename_i same
      exact .inr same
    · exact .inl (orderly identity other found)

theorem Orderly.remove
    {roster : Roster}
    (orderly : roster.Orderly)
    (identity : Identity)
    (channel : ChannelId) :
    (roster.remove identity channel).2.Orderly := by
  rcases roster.remove_cases identity channel with same | ⟨member, -, -, removed⟩
  · rw [same]
    exact orderly
  · rw [removed]
    intro other left there
    simp only [member?_removed] at there
    simp only [order_publishIdentities, order_publishState, List.mem_filter,
      decide_eq_true_eq]
    split at there
    · simp at there
    · rename_i different
      exact ⟨orderly other left there, by simpa using different⟩

/-- Everybody is found in the order in which they came. -/
theorem mem_toList_iff
    {roster : Roster}
    (orderly : roster.Orderly)
    (id : ChannelId) :
    (∃ member ∈ roster.toList, member.channel = id) ↔ roster.Holds id := by
  constructor
  · rintro ⟨member, listed, about⟩
    obtain ⟨identity, -, found⟩ := List.mem_filterMap.mp listed
    exact ⟨identity, member, found, about⟩
  · rintro ⟨identity, member, found, about⟩
    exact ⟨member,
      List.mem_filterMap.mpr ⟨identity, orderly identity member found, found⟩, about⟩

/-! ### As they are shown -/

/-- Everybody is found under the own identity, the order lists who is there, and
state and order are shown as they are. -/
structure Shown (roster : Roster) : Prop where
  own : ∀ identity member, roster.member? identity = some member → member.identity = identity
  listed : (roster.members.entries.map Prod.fst).Perm roster.order
  state : roster.state.value = roster.currentState
  identities : roster.identities.value = roster.order

theorem currentState_publishState (roster : Roster) :
    roster.publishState.currentState = roster.currentState := by
  rcases roster.publishState_cases with same | published
  · rw [same]
  · rw [published]
    rfl

/-- A state that need not be published is shown already. -/
theorem value_publishState (roster : Roster) :
    roster.publishState.state.value = roster.currentState := by
  rw [publishState]
  split
  · rfl
  · rename_i told
    simp only [Bool.or_eq_true, Bool.not_eq_true', not_or, Bool.not_eq_false] at told
    obtain ⟨alike, calm⟩ := told
    cases next : roster.currentState <;> cases shows : roster.state.value <;>
      simp_all [ListeningState.alike, ListeningState.cause?]

theorem size_of_listed
    {roster : Roster}
    (shown : roster.Shown) :
    roster.size = roster.order.length := by
  rw [← shown.listed.length_eq, List.length_map]
  rfl

theorem shown_watched : watched.Shown where
  own _ _ := nofun
  listed := .refl _
  state := rfl
  identities := rfl

/-- Where the clients stay and the state is published. -/
theorem Shown.publishState
    {before after : Roster}
    (shown : before.Shown)
    (members : after.members = before.members)
    (order : after.order = before.order)
    (identities : after.identities = before.identities) :
    after.publishState.Shown where
  own identity member found := by
    rw [member?_publishState, member?, members] at found
    exact shown.own identity member found
  listed := by
    rw [members_publishState, order_publishState, members, order]
    exact shown.listed
  state := (value_publishState after).trans (currentState_publishState after).symm
  identities := by
    rw [identities_publishState, order_publishState, identities, order]
    exact shown.identities

/-- Where the clients are others and both are published. -/
theorem shown_published
    {roster : Roster}
    (own :
      ∀ identity member, roster.member? identity = some member → member.identity = identity)
    (listed : (roster.members.entries.map Prod.fst).Perm roster.order) :
    roster.publishState.publishIdentities.Shown where
  own identity member found := by
    rw [member?_publishIdentities, member?_publishState] at found
    exact own identity member found
  listed := by
    show (roster.publishState.members.entries.map Prod.fst).Perm roster.publishState.order
    rw [members_publishState, order_publishState]
    exact listed
  state := (value_publishState roster).trans (currentState_publishState roster).symm
  identities := rfl

theorem Shown.add
    {roster : Roster}
    (shown : roster.Shown)
    (member : Member) :
    (roster.add member).2.Shown := by
  rcases roster.add_cases member with ⟨cause, refused⟩ | ⟨-, absent, added⟩
  · rw [refused]
    exact shown
  · rw [added]
    apply shown_published
    · intro identity other found
      rw [member?, Table.find?_insert] at found
      split at found
      · rename_i same
        rw [← Option.some.inj found, same]
      · exact shown.own identity other found
    · have passed :
          (roster.members.entries.map Prod.fst).filter (· ≠ member.identity) =
            roster.members.entries.map Prod.fst := by
        rw [List.filter_eq_self]
        intro identity there
        have absentKey := Table.notMem_keys_of_find? absent
        exact decide_eq_true fun same => absentKey (same ▸ there)
      show (member.identity :: (roster.members.erase member.identity).entries.map Prod.fst).Perm
        (roster.order ++ [member.identity])
      rw [Table.keys_erase, passed]
      exact (shown.listed.cons _).trans (List.perm_append_singleton _ _).symm

theorem Shown.remove
    {roster : Roster}
    (shown : roster.Shown)
    (identity : Identity)
    (channel : ChannelId) :
    (roster.remove identity channel).2.Shown := by
  rcases roster.remove_cases identity channel with same | ⟨member, -, -, removed⟩
  · rw [same]
    exact shown
  · rw [removed]
    apply shown_published
    · intro other there found
      rw [member?, Table.find?_erase] at found
      split at found
      · cases found
      · exact shown.own other there found
    · show ((roster.members.erase identity).entries.map Prod.fst).Perm
        (roster.order.filter (· ≠ identity))
      rw [Table.keys_erase]
      exact shown.listed.filter _

theorem shown_drain (roster : Roster) : roster.drain.2.Shown :=
  shown_published (fun _ _ => nofun) (.refl _)

/-! ## During a shutdown -/

/-- Nobody is on the roster, and everybody was told of the shutdown. -/
structure Drained (roster : Roster) : Prop where
  shutting : roster.shuttingDown = true
  members : ∀ identity, roster.member? identity = none
  order : roster.order = []
  identities : roster.identities.value = []
  state : roster.state.value = .shuttingDown

theorem Drained.not_holds
    {roster : Roster}
    (drained : roster.Drained)
    (id : ChannelId) :
    ¬ roster.Holds id := by
  rintro ⟨identity, member, found, -⟩
  simp [drained.members identity] at found

theorem Drained.orderly
    {roster : Roster}
    (drained : roster.Drained) :
    roster.Orderly := by
  intro identity member found
  simp [drained.members identity] at found

/-- A shutdown is shown once. -/
theorem state_publishState_of_shutting
    (roster : Roster)
    (shutting : roster.shuttingDown = true) :
    roster.publishState.state.value = .shuttingDown ∧
      (roster.publishState.state = roster.state ∨
        roster.publishState.state = roster.state.publish .shuttingDown) := by
  have next := currentState_of_shutting shutting
  rw [publishState]
  simp only [next]
  split
  · exact ⟨rfl, .inr rfl⟩
  · rename_i shown
    refine ⟨?_, .inl rfl⟩
    cases state : roster.state.value <;> simp_all [ListeningState.alike]

/-- A shutdown takes everybody out and is shown, unless it is shown already. -/
theorem drain_beginShutdown (roster : Roster) :
    roster.beginShutdown.drain.1 = roster.toList ∧
      roster.beginShutdown.drain.2.Drained ∧
      (roster.beginShutdown.drain.2.state = roster.state ∨
        roster.beginShutdown.drain.2.state = roster.state.publish .shuttingDown) := by
  have shutting : roster.beginShutdown.shuttingDown = true :=
    shuttingDown_publishState _
  obtain ⟨shown, told⟩ :=
    state_publishState_of_shutting { roster with shuttingDown := true } rfl
  have empty :
      publishState { roster.beginShutdown with members := {}, order := [] } =
        { roster.beginShutdown with members := {}, order := [] } :=
    publishState_of_shutting shutting shown
  have listed : roster.beginShutdown.toList = roster.toList := by
    have found : roster.beginShutdown.member? = roster.member? :=
      funext fun identity => member?_publishState _ identity
    have order : roster.beginShutdown.order = roster.order := order_publishState _
    rw [toList, toList, found, order]
  rw [drain, empty]
  exact ⟨listed, ⟨shutting, fun _ => rfl, rfl, rfl, shown⟩, told⟩

/-- A shutdown that begins again shows nothing new. -/
theorem state_drain_of_drained
    {roster : Roster}
    (drained : roster.Drained) :
    roster.beginShutdown.drain.2.state = roster.state := by
  have begun : roster.beginShutdown = roster := by
    have same : { roster with shuttingDown := true } = roster := by
      rw [← drained.shutting]
    rw [beginShutdown, same, publishState_of_shutting drained.shutting drained.state]
  have empty :
      publishState { roster with members := {}, order := [] } =
        { roster with members := {}, order := [] } :=
    publishState_of_shutting drained.shutting drained.state
  rw [begun, drain, empty]
  rfl

/-- The end of a shutdown shows that the server is off. -/
theorem finishShutdown_of_drained
    {roster : Roster}
    (drained : roster.Drained) :
    roster.finishShutdown.state = roster.state.publish .off ∧
      roster.finishShutdown.identities = roster.identities := by
  refine ⟨?_, identities_publishState _⟩
  simp [finishShutdown, publishState, currentState, ListeningState.derive,
    drained.state, ListeningState.alike]

end Roster

end LineProtocol
