import LineProtocol.Proofs.Server.Registered
import LineProtocol.Server.Casting

/-!
# Whom a message reaches

A message for one client is written on the connection that the client is registered with, one
for the newest client on the connection that was let in last of those still there, and one for
all on each registered connection once, in the order in which they were let in.  A connection
that does not take it gives one notice and keeps it from nobody else.

`Hands` says what handing over one frame does.  A message for all is a run of such turns, with
other threads in between; `Casts` is what holds at every point of that run, and
`reaches_exactly` puts both together for every server that can be reached.
-/

namespace LineProtocol

namespace Transport

/-- Whether a frame is taken. -/
def takes
    (transport : Transport)
    (id : ChannelId) :
    Bool :=
  transport.isWritable id && !transport.refusesWrites

theorem write_eq
    (transport : Transport)
    (id : ChannelId)
    (bytes : Bytes) :
    transport.write id bytes =
      (if transport.takes id then .ok () else .error (.notWritable id),
        if transport.isWritable id then transport.record (.write id bytes) else transport) := by
  rw [write, takes]
  by_cases writable : transport.isWritable id = true
  · cases refuses : transport.refusesWrites with
    | true => simp [writable]
    | false => simp [writable]
  · simp [writable]

end Transport

/-- The client that a message is for, or why there is none. -/
def Register.addressee (register : Register) : Option Identity → Except Fault Member
  | some identity =>
      match register.member? identity with
      | some member => .ok member
      | none => .error (.unknownIdentity identity)
  | none =>
      match register.members.getLast? with
      | some member => .ok member
      | none => .error .noClients

namespace ServerCore

/-! ## One frame -/

/-- A frame is handed to a connection: it is written there and nowhere else if the connection
is open, there is a notice if it is not taken, and that is all. -/
structure Hands
    (frame : Bytes)
    (refused : Fault → Notice)
    (id : ChannelId)
    (before after : ServerCore) : Prop where
  written :
    after.transport =
      if before.transport.isWritable id then before.transport.record (.write id frame)
      else before.transport
  noticed :
    after.notices =
      before.notices ++
        if before.transport.takes id then [] else [refused (.notWritable id)]
  same : after = { before with transport := after.transport, notices := after.notices }

variable
  {core : ServerCore}
  {register : Register}

theorem hands_deliver
    (frame : Bytes)
    (core : ServerCore)
    (member : Member) :
    core.Hands frame (.broadcastRefused member.identity) member.channel
      (core.deliver frame member) := by
  rw [deliver, Transport.write_eq]
  by_cases taken : core.transport.takes member.channel = true
  · simp only [if_pos taken]
    exact ⟨rfl, by simp [taken], rfl⟩
  · simp only [if_neg taken]
    exact ⟨rfl, by simp [note, taken], rfl⟩

theorem recipient_eq
    (lists : core.roster.Lists register)
    (target : Option Identity) :
    core.recipient target = register.addressee target := by
  cases target with
  | none =>
      rw [recipient, lists.mostRecent?]
      rfl
  | some identity =>
      rw [recipient, lists.found]
      rfl

theorem hands_send
    {framing : Framing}
    {message : String}
    {target : Option Identity}
    {member : Member}
    (emptied : core.encoder = framing.encoder)
    (named : core.recipient target = .ok member) :
    core.Hands (framing.frame message) .messageDropped member.channel
      (core.send message target) := by
  simp only [send, named, emptied, Framing.encode_encoder, Transport.write_eq]
  by_cases taken : core.transport.takes member.channel = true
  · simp only [if_pos taken]
    exact ⟨rfl, by simp [taken], by rw [← emptied]⟩
  · simp only [if_neg taken]
    exact ⟨rfl, by simp [note, taken], by rw [note, ← emptied]⟩

/-! ## A frame for all -/

/-- The notice about a client that does not take a frame for all. -/
def refusal?
    (transport : Transport)
    (member : Member) :
    Option Notice :=
  if transport.takes member.channel then none
  else some (.broadcastRefused member.identity (.notWritable member.channel))

/-- A frame is written on every connection that is open, and there is a notice for every
client that does not take it. -/
def castTo
    (core : ServerCore)
    (frame : Bytes)
    (members : List Member) :
    ServerCore :=
  { core with
    transport :=
      { core.transport with
        calls :=
          core.transport.calls ++
            (members.filter (core.transport.isWritable ·.channel)).map
              fun member => .write member.channel frame }
    notices := core.notices ++ members.filterMap (refusal? core.transport) }

/-- What one client has its turn for is the same as before for the others. -/
theorem castTo_deliver
    (frame : Bytes)
    (core : ServerCore)
    (member : Member)
    (members : List Member) :
    (core.deliver frame member).castTo frame members = core.castTo frame (member :: members) := by
  obtain ⟨written, noticed, same⟩ := hands_deliver frame core member
  have writable : (core.deliver frame member).transport.isWritable = core.transport.isWritable := by
    rw [written]
    split
    · rfl
    · rfl
  have refuses : refusal? (core.deliver frame member).transport = refusal? core.transport := by
    rw [written]
    split
    · rfl
    · rfl
  rw [castTo, writable, refuses, noticed, written, same]
  by_cases opened : core.transport.isWritable member.channel = true
  · by_cases taken : core.transport.takes member.channel = true
    · simp [castTo, refusal?, Transport.record, opened, taken]
    · simp [castTo, refusal?, Transport.record, opened, taken]
  · have refused : core.transport.takes member.channel = false := by
      simp [Transport.takes, opened]
    simp [castTo, refusal?, opened, refused]

theorem foldl_deliver
    (frame : Bytes)
    (core : ServerCore)
    (members : List Member) :
    members.foldl (deliver frame) core = core.castTo frame members := by
  induction members generalizing core with
  | nil => simp [castTo]
  | cons member members ih => rw [List.foldl_cons, ih, castTo_deliver]

theorem broadcast_eq
    {framing : Framing}
    (lists : core.roster.Lists register)
    (emptied : core.encoder = framing.encoder)
    (message : String) :
    core.broadcast message = core.castTo (framing.frame message) register.members := by
  simp only [broadcast, emptied, Framing.encode_encoder]
  rw [← emptied, foldl_deliver, lists.toList]

theorem casting_eq
    {framing : Framing}
    (lists : core.roster.Lists register)
    (emptied : core.encoder = framing.encoder)
    (message : String) :
    core.casting message =
      { core, frame := framing.frame message, left := register.members } := by
  have same : { core with encoder := framing.encoder } = core := by rw [← emptied]
  simp only [casting, emptied, Framing.encode_encoder, lists.toList]
  rw [same]

end ServerCore

namespace Casting

open ServerCore (Hands hands_deliver refusal?)

/-! ## A frame for all, turn by turn -/

/-- The client whose turn it is, and the transport that its turn finds. -/
def turn? : Casting × Event → Option (Member × Transport)
  | (casting, .deliver) => casting.left.head?.map (·, casting.core.transport)
  | (_, .elsewhere _) => none

/-- The turns of a run, in order. -/
def turnsOf
    (start : Casting)
    (events : List Event) :
    List (Member × Transport) :=
  (visits step? start events).filterMap turn?

/-- What holds of a frame for all on its way: each client has its turn once and in order, there
is a notice for each that did not take it, and everything but the transport stays. -/
structure Casts
    (core : ServerCore)
    (bytes : Bytes)
    (members : List Member)
    (turns : List (Member × Transport))
    (casting : Casting) : Prop where
  frame : casting.frame = bytes
  members : turns.map (·.1) ++ casting.left = members
  noticed :
    casting.core.notices =
      core.notices ++ turns.filterMap fun entry => refusal? entry.2 entry.1
  encoder : casting.core.encoder = core.encoder
  apart : core.Apart casting.core

theorem apart_refl (core : ServerCore) : core.Apart core :=
  ⟨rfl, rfl, rfl⟩

theorem apart_trans
    {first second third : ServerCore}
    (one : first.Apart second)
    (two : second.Apart third) :
    first.Apart third := by
  obtain ⟨listener, address, roster⟩ := one
  refine ⟨two.1.trans listener, two.2.1.trans address, ?_⟩
  have shown := two.2.2
  rw [roster] at shown
  exact shown

variable
  {core : ServerCore}
  {bytes : Bytes}
  {members : List Member}
  {turns : List (Member × Transport)}
  {start casting next : Casting}
  {events : List Event}

theorem hands_of_step?
    (stepped : casting.step? .deliver = some next) :
    ∃ member, casting.left = member :: next.left ∧ next.frame = casting.frame ∧
      casting.core.Hands casting.frame (.broadcastRefused member.identity) member.channel
        next.core := by
  rw [step?] at stepped
  split at stepped
  · cases stepped
  · rename_i member left more
    obtain rfl := Option.some.inj stepped
    exact ⟨member, more, rfl, hands_deliver _ _ _⟩

theorem Casts.step
    {event : Event}
    (casts : Casts core bytes members turns casting)
    (stepped : casting.step? event = some next) :
    Casts core bytes members (turns ++ (turn? (casting, event)).toList) next := by
  cases event with
  | deliver =>
      obtain ⟨member, left, frame, hands⟩ := hands_of_step? stepped
      have turn : turn? (casting, .deliver) = some (member, casting.core.transport) := by
        rw [turn?, left]
        rfl
      have same := hands.same
      rw [turn, Option.toList_some]
      constructor
      · exact frame.trans casts.frame
      · rw [← casts.members, left, List.map_append, List.append_assoc]
        rfl
      · rw [hands.noticed, casts.noticed, List.filterMap_append, List.append_assoc]
        congr 2
        by_cases taken : casting.core.transport.takes member.channel = true
        · simp [refusal?, taken]
        · simp [refusal?, taken]
      · rw [same]
        exact casts.encoder
      · refine apart_trans casts.apart ?_
        rw [same]
        exact ⟨rfl, rfl, rfl⟩
  | elsewhere other =>
      rw [step?] at stepped
      split at stepped
      · rename_i others
        obtain ⟨apart, encoder, notices⟩ := others
        obtain rfl := Option.some.inj stepped
        rw [turn?, Option.toList_none, List.append_nil]
        exact
          { frame := casts.frame
            members := casts.members
            noticed := notices.trans casts.noticed
            encoder := encoder.trans casts.encoder
            apart := apart_trans casts.apart apart }
      · cases stepped

theorem casts_run
    (starts : Casts start.core bytes members [] start)
    (ran : events.foldlM step? start = some casting) :
    Casts start.core bytes members (turnsOf start events) casting := by
  induction ran using foldlM_induction with
  | none => exact starts
  | snoc events event between final before stepped ih =>
      have turns :
          turnsOf start (events ++ [event]) =
            turnsOf start events ++ (turn? (between, event)).toList := by
        rw [turnsOf, visits_snoc before, List.filterMap_append]
        cases turn : turn? (between, event) with
        | none => simp [turn, turnsOf]
        | some entry => simp [turn, turnsOf]
      rw [turns]
      exact ih.step stepped

/-- Whoever is left can have their turns, one after the other. -/
theorem goes (casting : Casting) :
    (List.replicate casting.left.length .deliver).foldlM step? casting =
      some
        { casting with
          core := casting.core.castTo casting.frame casting.left
          left := [] } := by
  obtain ⟨core, frame, left⟩ := casting
  induction left generalizing core with
  | nil => simp [ServerCore.castTo]
  | cons member left ih =>
      have turn :
          step? { core, frame, left := member :: left } .deliver =
            some { core := core.deliver frame member, frame, left } := rfl
      rw [List.length_cons, List.replicate_succ, List.foldlM_cons, turn]
      refine (ih (core.deliver frame member)).trans ?_
      rw [ServerCore.castTo_deliver]

end Casting

namespace ServerSession

open Casting (Casts turnsOf)

/-- Everybody on the list has a connection of their own. -/
theorem channels_nodup
    {roster : Roster}
    {register : Register}
    {identityOf : ChannelId → Option Identity}
    (lists : roster.Lists register)
    (linked : roster.Linked identityOf) :
    (register.members.map Member.channel).Nodup := by
  have own : ∀ member ∈ register.members, identityOf member.channel = some member.identity := by
    intro member there
    obtain ⟨client, listed, rfl⟩ := List.mem_map.mp there
    apply linked
    rw [lists.found]
    exact Register.member?_of_mem lists.distinct listed
  have identities :
      (register.members.map Member.channel).map identityOf =
        register.identities.map some := by
    rw [List.map_map, Register.identities, Register.members, List.map_map, List.map_map]
    apply List.map_congr_left
    exact fun client there => own _ (List.mem_map_of_mem there)
  apply List.Nodup.of_map identityOf
  rw [identities]
  exact lists.distinct.map fun _ _ => Option.some.inj

/-- Wherever a server has come to, its clients are those whom the jobs that ran have left
registered, in the order in which they were let in and each with a connection of its own.  A
message for one of them, or for the newest, is handed to that connection and no other, and one
for nobody gives a notice and nothing else.  A message for all has each of them take its turn
once and in that order, whatever other threads do between two turns: the same frame is handed
to its connection and no other, there is one notice for each that does not take it, and what
the server knows and shows stays.  Each turn can come, and if nothing disturbs them this is
what the job does.  Every frame is the message with its delimiter. -/
theorem reaches_exactly
    {names : String × String}
    {settings : ServerSettings}
    {policy : Option String → IdentityPolicy}
    {seed : Nat}
    {transport : Transport}
    {handler : String → Reaction ServerAction}
    {turns : List (Turn Step)}
    {final : Callers ServerSession Closing}
    (ran :
      closedown.run?
          { session := .start names settings policy seed transport.unused handler } turns =
        some final) :
    let server : Callers ServerSession Closing :=
      { session := .start names settings policy seed transport.unused handler }
    let register := registered (closedown.trail server turns)
    let core := final.session.core
    (register.identities.Nodup ∧ (register.members.map Member.channel).Nodup ∧
        core.roster.toList = register.members) ∧
      (∀ message target,
        match register.addressee target with
        | .error cause => core.send message target = core.note (.messageDropped cause)
        | .ok member =>
            core.Hands (settings.framing.frame message) .messageDropped member.channel
              (core.send message target)) ∧
      ∀ message,
        core.broadcast message =
            core.castTo (settings.framing.frame message) register.members ∧
          ∀ events casting,
            events.foldlM Casting.step? (core.casting message) = some casting →
              Casts core (settings.framing.frame message) register.members
                  (turnsOf (core.casting message) events) casting ∧
                (∀ next, casting.step? .deliver = some next →
                  ∃ member, casting.left = member :: next.left ∧
                    casting.core.Hands (settings.framing.frame message)
                      (.broadcastRefused member.identity) member.channel next.core) ∧
                (List.replicate casting.left.length .deliver).foldlM Casting.step? casting =
                  some
                    { casting with
                      core := casting.core.castTo casting.frame casting.left
                      left := [] } := by
  intro server register core
  have starts : closedown.Sound server := Closedown.sound_start rfl rfl rfl
  have accounted : Accounted server [] server :=
    accounted_start names settings policy seed transport handler
  have unopened : Admitting server [] server :=
    admitting_start names settings policy seed transport handler
  have enrolment := (unopened.run starts accounted ran).enrolment
  obtain ⟨lists, emptied⟩ :=
    (addressed_start names settings policy seed transport.unused handler).run starts ran
  refine ⟨⟨lists.distinct, channels_nodup lists enrolment.linked, lists.toList⟩, ?_, ?_⟩
  · intro message target
    have named := ServerCore.recipient_eq lists target
    cases addressed : register.addressee target with
    | error cause =>
        rw [addressed] at named
        simp only [ServerCore.send, core, named]
    | ok member => exact ServerCore.hands_send emptied (named.trans addressed)
  · intro message
    refine ⟨ServerCore.broadcast_eq lists emptied message, fun events casting went => ?_⟩
    have casts :
        Casts core (settings.framing.frame message) register.members
          (turnsOf (core.casting message) events) casting := by
      rw [ServerCore.casting_eq lists emptied] at went ⊢
      refine Casting.casts_run ⟨rfl, rfl, ?_, rfl, Casting.apart_refl core⟩ went
      exact (List.append_nil _).symm
    refine ⟨casts, fun next stepped => ?_, casting.goes⟩
    obtain ⟨member, left, -, hands⟩ := Casting.hands_of_step? stepped
    exact ⟨member, left, casts.frame ▸ hands⟩

/-- Two clients are let in, and there is a message for the newest and one for all. -/
theorem reaches_exactly_two :
    let server : Callers ServerSession Closing :=
      { session :=
          .start ("server", "crew") {} (fun name => .named fun _ => name.getD "") 0
            (Transport.unused {}) fun _ => {} }
    let peer : Option SocketAddress := some { ip := .v4 .unspecified, port := 4000 }
    let turns : List (Turn Step) :=
      [.aside (.act (.listen 80 none false)), .serve, .aside (.act (.join peer (some "anna"))),
        .serve, .aside (.act (.join peer (some "bert"))), .serve]
    ∃ final, closedown.run? server turns = some final ∧
      (registered (closedown.trail server turns)).members =
        [{ identity := .named "anna", channel := ⟨2⟩ },
          { identity := .named "bert", channel := ⟨3⟩ }] ∧
      final.session.core.Hands (Framing.frame {} "hi") .messageDropped ⟨3⟩
        (final.session.core.send "hi" none) ∧
      final.session.core.broadcast "hi" =
        final.session.core.castTo (Framing.frame {} "hi")
          [{ identity := .named "anna", channel := ⟨2⟩ },
            { identity := .named "bert", channel := ⟨3⟩ }] := by
  intro server peer turns
  have goes : (closedown.run? server turns).isSome = true := by decide +kernel
  obtain ⟨final, ran⟩ := Option.isSome_iff_exists.mp goes
  have members :
      (registered (closedown.trail server turns)).members =
        [{ identity := .named "anna", channel := ⟨2⟩ },
          { identity := .named "bert", channel := ⟨3⟩ }] := by
    decide +kernel
  obtain ⟨-, sends, casts⟩ := reaches_exactly ran
  refine ⟨final, ran, members, sends "hi" none, ?_⟩
  rw [← members]
  exact (casts "hi").1

end ServerSession

end LineProtocol
