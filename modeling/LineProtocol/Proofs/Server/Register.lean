import Mathlib.Data.List.Nodup
import LineProtocol.Proofs.Server.Roster
import LineProtocol.Server.Register

/-!
# A roster is a list

A roster finds its clients in a table and keeps their order apart from it.  Who
asks for clients by their order looks each of them up, and nobody is told of one
that the table does not have.  `refines_register` says that this never happens:
whatever is asked of a roster, and in whatever order, it answers as the plain
list does that has every client once, and a request that is turned away leaves
no trace.

The tie between the two is `Keeps`.  Each request keeps it.
-/

namespace LineProtocol

/-- Where at most one element is wanted, it is found. -/
theorem find?_eq_some_iff_of_unique
    {α : Type}
    {list : List α}
    {wanted : α → Bool}
    (unique :
      ∀ one ∈ list, ∀ other ∈ list,
        wanted one = true → wanted other = true → one = other)
    {element : α} :
    list.find? wanted = some element ↔ element ∈ list ∧ wanted element = true := by
  constructor
  · intro found
    exact ⟨List.mem_of_find?_eq_some found, List.find?_some found⟩
  · rintro ⟨there, fits⟩
    obtain ⟨other, found⟩ :=
      Option.isSome_iff_exists.mp (List.find?_isSome.mpr ⟨element, there, fits⟩)
    rw [found, unique other (List.mem_of_find?_eq_some found) element there
      (List.find?_some found) fits]

namespace Register

variable
  {register : Register}
  {client : Identity × Channel}
  {identity : Identity}

theorem isNamed_iff {channel : ChannelId} :
    isNamed identity channel client = true ↔ client.1 = identity ∧ client.2.id = channel := by
  simp [isNamed]

/-- Where nobody is listed twice, whoever is listed is found. -/
theorem client?_eq_some_iff (distinct : register.identities.Nodup) :
    register.client? identity = some client ↔
      client ∈ register.clients ∧ client.1 = identity := by
  rw [client?, find?_eq_some_iff_of_unique, decide_eq_true_eq]
  intro one here other there fits same
  rw [decide_eq_true_eq] at fits same
  exact List.inj_on_of_nodup_map distinct here there (fits.trans same.symm)

/-- The same for a client that is looked for by identity and connection. -/
theorem find?_isNamed_eq_some_iff
    (distinct : register.identities.Nodup)
    {channel : ChannelId} :
    register.clients.find? (isNamed identity channel) = some client ↔
      client ∈ register.clients ∧ client.1 = identity ∧ client.2.id = channel := by
  rw [find?_eq_some_iff_of_unique, isNamed_iff]
  intro one here other there fits same
  rw [isNamed_iff] at fits same
  exact List.inj_on_of_nodup_map distinct here there (fits.1.trans same.1.symm)

/-- Nobody is found who has no place in the list. -/
theorem client?_eq_none_iff :
    register.client? identity = none ↔ identity ∉ register.identities := by
  rw [client?, List.find?_eq_none]
  constructor
  · rintro nobody there
    obtain ⟨client, listed, named⟩ := List.mem_map.mp there
    exact nobody client listed (decide_eq_true named)
  · intro absent client listed named
    exact absent (List.mem_map.mpr ⟨client, listed, of_decide_eq_true named⟩)

theorem member?_of_mem
    (distinct : register.identities.Nodup)
    (there : client ∈ register.clients) :
    register.member? client.1 = some (entry client) := by
  rw [member?, (client?_eq_some_iff distinct).mpr ⟨there, rfl⟩, Option.map_some]

/-- Whoever is found has the identity that was looked for. -/
theorem named_of_client?
    (found : register.client? identity = some client) :
    client ∈ register.clients ∧ client.1 = identity :=
  ⟨List.mem_of_find?_eq_some found, by simpa using List.find?_some found⟩

/-- Who is taken out by identity and connection is who is found by identity, if the
connection is theirs. -/
theorem find?_isNamed
    (distinct : register.identities.Nodup)
    (identity : Identity)
    (channel : ChannelId) :
    register.clients.find? (isNamed identity channel) =
      (register.client? identity).filter fun client => client.2.id = channel := by
  ext client
  rw [find?_isNamed_eq_some_iff distinct, Option.filter_eq_some_iff, decide_eq_true_eq,
    client?_eq_some_iff distinct, and_assoc]

/-! ## What is changed -/

/-- A client who is added last is found by whoever does not look for an earlier one. -/
theorem member?_added
    (absent : identity ∉ register.identities)
    (channel : Channel)
    (other : Identity) :
    ({ register with clients := register.clients ++ [(identity, channel)] }).member? other =
      if other = identity then some (entry (identity, channel))
      else register.member? other := by
  have nobody := client?_eq_none_iff.mpr absent
  rw [client?] at nobody
  by_cases same : other = identity
  · subst same
    simp [member?, client?, List.find?_append, nobody]
  · have different : identity ≠ other := fun equal => same equal.symm
    simp [member?, client?, List.find?_append, different, same]

/-- The clients of other identities are found as before. -/
theorem member?_removed (other : Identity) :
    ({ register with
        clients := register.clients.filter (·.1 ≠ identity) }).member? other =
      if other = identity then none else register.member? other := by
  have looked :
      ∀ clients : List (Identity × Channel),
        (clients.find? (·.1 = other)).map entry =
          ((⟨clients⟩ : Table Identity Channel).find? other).map fun channel =>
            entry (other, channel) := by
    intro clients
    rw [Table.find?, Option.map_map]
    cases found : clients.find? (·.1 = other) with
    | none => rfl
    | some client =>
        have named : client.1 = other := by simpa using List.find?_some found
        rw [Option.map_some, Option.map_some, ← named]
        rfl
  rw [member?, member?, client?, client?, looked, looked]
  show ((Table.erase ⟨register.clients⟩ identity).find? other).map _ = _
  rw [Table.find?_erase]
  split
  · rfl
  · rfl

/-- Nobody leaves who is not named. -/
theorem filter_isNamed_of_absent
    {channel : ChannelId}
    (absent : register.clients.find? (isNamed identity channel) = none) :
    register.clients.filter (fun client => !isNamed identity channel client) =
      register.clients := by
  rw [List.filter_eq_self]
  intro client there
  simpa using List.find?_eq_none.mp absent client there

/-- Whoever is named is the only one to leave. -/
theorem filter_isNamed_of_found
    (distinct : register.identities.Nodup)
    (found : register.client? identity = some client) :
    register.clients.filter (fun other => !isNamed identity client.2.id other) =
      register.clients.filter (·.1 ≠ identity) := by
  apply List.filter_congr
  intro other there
  obtain ⟨listed, named⟩ := named_of_client? found
  have theirs : other.1 = identity → other.2.id = client.2.id := by
    intro same
    rw [List.inj_on_of_nodup_map distinct there listed (same.trans named.symm)]
  by_cases same : other.1 = identity
  · simp [isNamed, same, theirs same]
  · simp [isNamed, same]

/-- What requests make of a register. -/
def after
    (register : Register)
    (requests : List RosterSession.Request) :
    Register :=
  requests.foldl (fun register request => (register.perform request).2) register

end Register

namespace RosterSession

open Register (entry)

/-- A request to add somebody was refused, or one to remove somebody ignored. -/
def Reply.isRefusal : Reply → Bool
  | .added (.error _) => true
  | .member none => true
  | _ => false

/-- A roster with whoever watches it from the start. -/
def fresh
    (states : List (Subscription ListeningState))
    (lists : List (Subscription (List Identity))) :
    RosterSession :=
  { roster :=
      { state := { value := .off, subscriptions := states }
        identities := { value := [], subscriptions := lists } } }

/-- What requests make of a session. -/
def after
    (session : RosterSession)
    (requests : List Request) :
    RosterSession :=
  requests.foldl (fun session request => (session.perform request).2) session

/-- The session knows what the register says, and nobody has two places. -/
structure Keeps
    (session : RosterSession)
    (register : Register) : Prop where
  distinct : register.identities.Nodup
  order : session.roster.order = register.identities
  found : ∀ identity, session.roster.member? identity = register.member? identity
  channels : ∀ client ∈ register.clients, session.channels.find? client.1 = some client.2
  closing : session.roster.shuttingDown = register.closing

variable
  {session : RosterSession}
  {register : Register}

/-! ## What is read -/

/-- Nobody is passed over who is looked up by the order. -/
theorem Keeps.toList (keeps : session.Keeps register) :
    session.roster.toList = register.members := by
  rw [Roster.toList, keeps.order, Register.identities, List.filterMap_map, Register.members,
    ← List.filterMap_eq_map]
  apply List.filterMap_congr
  intro client there
  exact (keeps.found client.1).trans (Register.member?_of_mem keeps.distinct there)

theorem Keeps.mostRecent? (keeps : session.Keeps register) :
    session.roster.mostRecent? = register.members.getLast? := by
  rw [Roster.mostRecent?, keeps.order, Register.identities, Register.members,
    List.getLast?_map, List.getLast?_map]
  cases last : register.clients.getLast? with
  | none => rfl
  | some client =>
      exact (keeps.found client.1).trans
        (Register.member?_of_mem keeps.distinct (List.mem_of_getLast? last))

/-- Whoever is on the roster has the channel that they were added with. -/
theorem Keeps.channel?
    (keeps : session.Keeps register)
    (identity : Identity) :
    ((session.roster.member? identity).bind fun _ => session.channels.find? identity) =
      (register.client? identity).map (·.2) := by
  rw [keeps.found, Register.member?]
  cases found : register.client? identity with
  | none => rfl
  | some client =>
      obtain ⟨there, rfl⟩ := Register.named_of_client? found
      exact keeps.channels client there

/-! ## What is changed -/

/-- The clients stay as they are. -/
theorem Keeps.publishState
    {roster : Roster}
    {closing : Bool}
    (keeps : session.Keeps register)
    (members : roster.members = session.roster.members)
    (order : roster.order = session.roster.order)
    (shutting : roster.shuttingDown = closing) :
    ({ session with roster := roster.publishState }).Keeps { register with closing } where
  distinct := keeps.distinct
  order := (Roster.order_publishState roster).trans (order.trans keeps.order)
  found identity := by
    rw [Roster.member?_publishState, Roster.member?, members]
    exact keeps.found identity
  channels := keeps.channels
  closing := (Roster.shuttingDown_publishState roster).trans shutting

theorem Keeps.add
    (keeps : session.Keeps register)
    (identity : Identity)
    (channel : Channel) :
    (session.perform (.add identity channel)).1 =
        (register.perform (.add identity channel)).1 ∧
      (session.perform (.add identity channel)).2.Keeps
        (register.perform (.add identity channel)).2 := by
  rw [RosterSession.perform, Register.perform]
  by_cases closing : register.closing = true
  · have refused :
        session.roster.add { identity, channel := channel.id } =
          (.error .tornDown, session.roster) := by
      rw [Roster.add, if_pos (keeps.closing.trans closing)]
    rw [refused, if_pos closing]
    exact ⟨rfl, keeps⟩
  · rw [if_neg closing]
    have running : session.roster.shuttingDown = false :=
      keeps.closing.trans (Bool.eq_false_iff.mpr closing)
    by_cases known : identity ∈ register.identities
    · have there : (session.roster.member? identity).isSome = true := by
        rw [keeps.found, Register.member?, Option.isSome_map, Option.isSome_iff_ne_none]
        exact fun nobody => Register.client?_eq_none_iff.mp nobody known
      have refused :
          session.roster.add { identity, channel := channel.id } =
            (.error (.duplicateIdentity identity), session.roster) := by
        rw [Roster.add, if_neg (Bool.eq_false_iff.mp running), if_pos there]
      rw [refused, if_pos known]
      exact ⟨rfl, keeps⟩
    · have absent : session.roster.member? identity = none := by
        rw [keeps.found, Register.member?, Register.client?_eq_none_iff.mpr known]
        rfl
      rw [Roster.add_of_absent running absent, if_neg known]
      refine ⟨rfl, ?_, ?_, ?_, ?_, ?_⟩
      · rw [Register.identities, List.map_append]
        exact keeps.distinct.append (List.nodup_singleton _)
          (List.disjoint_singleton.mpr known)
      · simp only [Roster.order_publishIdentities, Roster.order_publishState,
          Register.identities, List.map_append, keeps.order]
        rfl
      · intro other
        rw [Register.member?_added known, ← keeps.found]
        exact Roster.member?_added session.roster _ other
      · intro client there
        rw [Table.find?_insert]
        rcases List.mem_append.mp there with earlier | last
        · have different : client.1 ≠ identity := by
            rintro rfl
            exact known (List.mem_map_of_mem earlier)
          rw [if_neg different]
          exact keeps.channels client earlier
        · rw [List.mem_singleton.mp last, if_pos rfl]
      · exact (Roster.shuttingDown_publishState _).trans keeps.closing

theorem Keeps.remove
    (keeps : session.Keeps register)
    (identity : Identity)
    (channel : ChannelId) :
    (session.perform (.remove identity channel)).1 =
        (register.perform (.remove identity channel)).1 ∧
      (session.perform (.remove identity channel)).2.Keeps
        (register.perform (.remove identity channel)).2 := by
  rw [RosterSession.perform, Register.perform]
  have known := keeps.found identity
  have chosen := Register.find?_isNamed keeps.distinct identity channel
  rw [Register.member?] at known
  cases found : register.client? identity with
  | none =>
      rw [found] at known chosen
      have ignored : session.roster.remove identity channel = (none, session.roster) := by
        rw [Roster.remove, known]
        rfl
      rw [ignored, chosen, Register.filter_isNamed_of_absent chosen]
      exact ⟨rfl, keeps⟩
  | some client =>
      rw [found] at known chosen
      by_cases theirs : client.2.id = channel
      · subst theirs
        have removed :
            session.roster.remove identity client.2.id =
              (some (entry client),
                Roster.publishIdentities <| Roster.publishState
                  { session.roster with
                    members := session.roster.members.erase identity
                    order := session.roster.order.filter (· ≠ identity) }) := by
          rw [Roster.remove, known]
          exact if_pos rfl
        rw [removed, chosen, Register.filter_isNamed_of_found keeps.distinct found]
        refine ⟨by simp [Option.filter], ?_, ?_, ?_, ?_, ?_⟩
        · exact keeps.distinct.sublist (List.filter_sublist.map _)
        · simp only [Roster.order_publishIdentities, Roster.order_publishState,
            keeps.order, Register.identities, List.filter_map]
          rfl
        · intro other
          rw [Register.member?_removed, ← keeps.found]
          exact Roster.member?_removed session.roster identity other
        · exact fun other there => keeps.channels other (List.mem_filter.mp there).1
        · exact (Roster.shuttingDown_publishState _).trans keeps.closing
      · have nobody : register.clients.find? (Register.isNamed identity channel) = none := by
          rw [chosen]
          simp [theirs]
        have ignored : session.roster.remove identity channel = (none, session.roster) := by
          rw [Roster.remove, known]
          exact if_neg theirs
        rw [ignored, nobody, Register.filter_isNamed_of_absent nobody]
        exact ⟨rfl, keeps⟩

theorem Keeps.drain (keeps : session.Keeps register) :
    (session.perform .drain).1 = (register.perform .drain).1 ∧
      (session.perform .drain).2.Keeps (register.perform .drain).2 := by
  refine ⟨congrArg Reply.members keeps.toList, List.nodup_nil, ?_, ?_, ?_, ?_⟩
  · exact Roster.order_publishState _
  · exact fun identity => Roster.member?_publishState _ identity
  · exact fun _ => nofun
  · exact (Roster.shuttingDown_publishState _).trans keeps.closing

theorem Keeps.send
    (keeps : session.Keeps register)
    (identity : Identity)
    (bytes : Bytes) :
    (session.perform (.send identity bytes)).1 =
        (register.perform (.send identity bytes)).1 ∧
      (session.perform (.send identity bytes)).2.Keeps register := by
  rw [RosterSession.perform, Register.perform, RosterSession.send, keeps.channel?]
  cases register.client? identity with
  | none => exact ⟨rfl, keeps⟩
  | some client =>
      by_cases writable : client.2.isWritable = true
      · simp only [Option.map_some, if_pos writable]
        exact ⟨trivial, { keeps with }⟩
      · simp only [Option.map_some, if_neg writable]
        exact ⟨trivial, keeps⟩

/-- Both answer the same, and then still know the same. -/
theorem Keeps.perform
    (keeps : session.Keeps register)
    (request : Request) :
    (session.perform request).1 = (register.perform request).1 ∧
      (session.perform request).2.Keeps (register.perform request).2 := by
  cases request with
  | bound address => exact ⟨rfl, keeps.publishState rfl rfl keeps.closing⟩
  | unbound => exact ⟨rfl, keeps.publishState rfl rfl keeps.closing⟩
  | recordFault cause => exact ⟨rfl, keeps.publishState rfl rfl keeps.closing⟩
  | beginShutdown => exact ⟨rfl, keeps.publishState rfl rfl rfl⟩
  | finishShutdown => exact ⟨rfl, keeps.publishState rfl rfl rfl⟩
  | add identity channel => exact keeps.add identity channel
  | remove identity channel => exact keeps.remove identity channel
  | get identity => exact ⟨congrArg Reply.member (keeps.found identity), keeps⟩
  | list => exact ⟨congrArg Reply.members keeps.toList, keeps⟩
  | drain => exact keeps.drain
  | send identity bytes => exact keeps.send identity bytes

/-! ## What is shown -/

/-- Sending octets does not change who is there. -/
theorem roster_send
    (session : RosterSession)
    (identity : Identity)
    (bytes : Bytes) :
    (session.send identity bytes).2.roster = session.roster := by
  unfold send
  split
  · rfl
  · split
    · rfl
    · rfl

/-- What is published after each request is what is known. -/
theorem shown_perform
    (shown : session.roster.Shown)
    (request : Request) :
    (session.perform request).2.roster.Shown := by
  cases request with
  | bound address => exact shown.publishState rfl rfl rfl
  | unbound => exact shown.publishState rfl rfl rfl
  | recordFault cause => exact shown.publishState rfl rfl rfl
  | beginShutdown => exact shown.publishState rfl rfl rfl
  | finishShutdown => exact shown.publishState rfl rfl rfl
  | add identity channel => exact shown.add _
  | remove identity channel => exact shown.remove identity channel
  | get identity => exact shown
  | list => exact shown
  | drain => exact Roster.shown_drain _
  | send identity bytes =>
      show (session.send identity bytes).2.roster.Shown
      rw [roster_send]
      exact shown

/-- Whatever is turned away leaves no trace. -/
theorem perform_of_isRefusal
    (request : Request)
    (refused : (session.perform request).1.isRefusal = true) :
    (session.perform request).2 = session := by
  cases request with
  | add identity channel =>
      rcases session.roster.add_cases { identity, channel := channel.id } with
        ⟨cause, same⟩ | ⟨-, -, added⟩
      · rw [RosterSession.perform, same]
      · rw [RosterSession.perform, added] at refused
        cases refused
  | remove identity channel =>
      rcases session.roster.remove_cases identity channel with
        same | ⟨member, -, -, removed⟩
      · rw [RosterSession.perform, same]
      · rw [RosterSession.perform, removed] at refused
        cases refused
  | get identity => rfl
  | _ => cases refused

/-! ## Runs -/

/-- A roster that nobody has used is an empty list. -/
theorem keeps_fresh
    (states : List (Subscription ListeningState))
    (lists : List (Subscription (List Identity))) :
    (fresh states lists).Keeps {} where
  distinct := List.nodup_nil
  order := rfl
  found _ := rfl
  channels _ := nofun
  closing := rfl

theorem shown_fresh
    (states : List (Subscription ListeningState))
    (lists : List (Subscription (List Identity))) :
    (fresh states lists).roster.Shown where
  own _ _ := nofun
  listed := .refl _
  state := rfl
  identities := rfl

theorem Keeps.after
    (keeps : session.Keeps register)
    (requests : List Request) :
    (session.after requests).Keeps (register.after requests) := by
  induction requests generalizing session register with
  | nil => exact keeps
  | cons request requests ih => exact ih (keeps.perform request).2

theorem shown_after
    (shown : session.roster.Shown)
    (requests : List Request) :
    (session.after requests).roster.Shown := by
  induction requests generalizing session with
  | nil => exact shown
  | cons request requests ih => exact ih (shown_perform shown request)

/-- Whatever was asked before, a roster answers as the list of its clients does.  The list has
everybody once.  The order, all clients, their number, each one of them and the one who came
last are those of the list, and what is turned away changes nothing and is shown to nobody. -/
theorem refines_register
    (states : List (Subscription ListeningState))
    (lists : List (Subscription (List Identity)))
    (earlier : List Request)
    (request : Request) :
    let session := (fresh states lists).after earlier
    let register := ({} : Register).after earlier
    (session.perform request).1 = (register.perform request).1 ∧
      register.identities.Nodup ∧
      session.roster.order = register.identities ∧
      session.roster.toList = register.members ∧
      session.roster.size = register.clients.length ∧
      (∀ identity, session.roster.member? identity = register.member? identity) ∧
      session.roster.mostRecent? = register.members.getLast? ∧
      ((session.perform request).1.isRefusal = true →
        (session.perform request).2 = session) := by
  intro session register
  have keeps : session.Keeps register := (keeps_fresh states lists).after earlier
  have shown : session.roster.Shown := shown_after (shown_fresh states lists) earlier
  have counted : session.roster.size = register.clients.length := by
    rw [Roster.size_of_listed shown, keeps.order, Register.identities, List.length_map]
  exact ⟨(keeps.perform request).1, keeps.distinct, keeps.order, keeps.toList, counted,
    keeps.found, keeps.mostRecent?, perform_of_isRefusal request⟩

end RosterSession

end LineProtocol
