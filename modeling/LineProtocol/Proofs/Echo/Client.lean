import LineProtocol.Proofs.Client.Replies
import LineProtocol.Proofs.Dispatch.Attended
import LineProtocol.Proofs.Echo.Pipe

/-!
# A client that talks and listens

A client is connected and stays so.  Its user sends messages, its handler is given what
comes back and asks for nothing.  `Talks` says where everything is that was sent and that
came: what waits in the context's queue, what was written, and what waits for the handler.
-/

namespace LineProtocol

namespace ClientCore

/-- A message that is sent on a channel which carries it is written there. -/
theorem send_of_carries
    {core : ClientCore}
    {framing : Framing}
    {id : ChannelId}
    {octets : Bytes}
    (connected : core.machine.current = .connected)
    (current : core.channel = some id)
    (encoder : core.encoder = framing.encoder)
    (carries : core.transport.Carries id octets)
    (text : String) :
    core.send text =
      { core with transport := core.transport.record (.write id (framing.frame text)) } := by
  rw [send, connected, current]
  simp only [encoder, Framing.encode_encoder, carries.write]

end ClientCore

namespace ClientSession

/-- What the handler does with a message. -/
def reaction
    (session : ClientSession)
    (message : String) :
    Reaction ClientAction :=
  session.handler message

/-- A chunk that leaves the intake open gives its messages to the crew and changes nothing
else that jobs work on. -/
theorem read_of_reading
    {session : ClientSession}
    {id : ChannelId}
    {chunk : Bytes}
    (reading : ((session.seat id).intake.read chunk).2.closing = false)
    (accepting : session.core.crew.accepting = true) :
    session.read id chunk =
      { session with
        intakes := session.intakes.insert id ((session.seat id).intake.read chunk).2
        notices :=
          session.notices ++
            ((session.seat id).intake.read chunk).1.faults.map (Intake.noticeOf id)
        context :=
          { session.context with
            state :=
              { session.core with
                crew :=
                  { session.core.crew with
                    queue :=
                      session.core.crew.queue ++
                        ((session.seat id).intake.read chunk).1.messages } } } } := by
  have handed :=
    Crew.foldl_dispatch accepting ((session.seat id).intake.read chunk).1.messages fun text => text
  rw [List.map_id'] at handed
  rw [← handed]
  unfold read
  simp only [foldl_note]
  split
  · rename_i closes
    change (((session.seat id).intake.read chunk).2.closing && _) = true at closes
    rw [reading] at closes
    cases closes
  · rfl

/-- A client that is connected: what it was asked to send, what it has written, and what its
handler was or will be given of the octets that came. -/
structure Talks
    (session : ClientSession)
    (framing : Framing)
    (near : ChannelId)
    (heard : Bytes)
    (sent written : List String) : Prop where
  held : session.held = true
  ways : session.framing = framing
  waits : ∃ waiting, session.context.Holds (waiting.map .send) ∧ sent = written ++ waiting
  connected : session.core.machine.current = .connected
  current : session.core.channel = some near
  known : ∃ channel, session.core.transport.channel? near = some channel ∧ channel.id = near
  carries : session.core.transport.Carries near (framing.written written)
  encoder : session.core.encoder = framing.encoder
  alone : ∃ hand, session.core.crew.Sole hand
  follows : (session.seat near).intake.Follows framing heard session.core.crew.jobs
  given : session.messages = session.core.crew.taken
  silent : ∀ message, (session.handler message).actions = []

variable
  {session : ClientSession}
  {framing : Framing}
  {near : ChannelId}
  {heard : Bytes}
  {sent written : List String}

/-- What the user sends waits behind all that was sent before. -/
theorem Talks.submit
    (talks : session.Talks framing near heard sent written)
    (text : String) :
    (session.perform (.send text)).2.Talks framing near heard (sent ++ [text]) written := by
  obtain ⟨waiting, holds, whole⟩ := talks.waits
  have submitted :
      (session.perform (.send text)).2 =
        { session with context := (session.context.submit (.send text)).2 } := by
    rw [perform, call, if_pos talks.held]
    rfl
  rw [submitted, holds.submit]
  exact
    { talks with
      waits :=
        ⟨waiting ++ [text], ⟨holds.stopped, holds.ended, by simp⟩, by simp [whole]⟩ }

/-- The context writes the message that waits first. -/
theorem Talks.runNext_cons
    (talks : session.Talks framing near heard sent written)
    {text : String}
    {rest : List String}
    (holds : session.context.Holds ((text :: rest).map .send)) :
    (session.context.runNext ClientJob.craft).2 =
      { session.context with
        state :=
          { session.core with
            transport := session.core.transport.record (.write near (framing.frame text)) }
        queue := (rest.map ClientJob.send).map .run } := by
  have ran :
      ClientJob.craft.run session.context.stopped (.send text) session.core =
        { state := session.core.send text, answer := some none } :=
    rfl
  rw [holds.runNext_cons ran,
    ClientCore.send_of_carries talks.connected talks.current talks.encoder talks.carries]

/-- The context writes a message, if one waits. -/
theorem Talks.serve
    (talks : session.Talks framing near heard sent written) :
    ∃ more,
      ({ session with
          context := (session.context.runNext ClientJob.craft).2 } : ClientSession).Talks
        framing near heard sent (written ++ more) := by
  obtain ⟨waiting, holds, whole⟩ := talks.waits
  cases waiting with
  | nil =>
      refine ⟨[], ?_⟩
      rw [holds.runNext_nil, List.append_nil]
      exact talks
  | cons text rest =>
      refine ⟨[text], ?_⟩
      rw [talks.runNext_cons holds]
      exact
        { talks with
          waits := ⟨rest, ⟨holds.stopped, holds.ended, rfl⟩, by simp [whole]⟩
          carries := talks.carries.record text }

/-- What the crew does with the messages that came leaves everything else where it is. -/
theorem Talks.withCrew
    (talks : session.Talks framing near heard sent written)
    (crew : Crew String)
    (jobs : crew.jobs = session.core.crew.jobs)
    (alone : ∃ hand, crew.Sole hand)
    {messages : List String}
    (given : messages = crew.taken) :
    { session.alter fun core => { core with crew } with messages }.Talks framing near heard sent
      written := by
  obtain ⟨waiting, holds, whole⟩ := talks.waits
  have follows := talks.follows
  rw [← jobs] at follows
  exact
    { talks with
      waits := ⟨waiting, holds.withState _, whole⟩
      alone
      follows
      given }

/-- The thread gives its handler the message that waits first, or ends with it.  The handler
asks for nothing. -/
theorem Talks.attend
    {attended next : Attended ClientSession ClientAction}
    (talks : attended.session.Talks framing near heard sent written)
    (still : attended.pending = [])
    {duty : Duty}
    (attends : staff.attend? reaction attended duty = some next) :
    next.pending = [] ∧
      ∃ more, next.session.Talks framing near heard sent (written ++ more) := by
  obtain ⟨hand, sole⟩ := talks.alone
  cases staff.attends_of_attend? sole.workers attends with
  | serve => exact ⟨still, talks.serve⟩
  | @take first rest idle waits =>
      change attended.session.core.crew.queue = first :: rest at waits
      refine ⟨talks.silent first, [], ?_⟩
      rw [List.append_nil]
      refine talks.withCrew
        { attended.session.core.crew with
          workers := [some first]
          queue := rest
          taken := attended.session.core.crew.taken ++ [first] }
        ?_ ⟨some first, rfl, sole.accepting⟩ ?_
      · simp [Crew.jobs, waits]
      · exact congrArg (· ++ [first]) talks.given
  | ask works wants => cases still.symm.trans wants
  | finish works done ended notices =>
      refine ⟨rfl, [], ?_⟩
      rw [List.append_nil]
      exact talks.withCrew
        { attended.session.core.crew with workers := [none], ended, notices }
        rfl ⟨none, rfl, sole.accepting⟩ talks.given

/-- A job of the context leaves only fewer of them. -/
theorem Talks.queue_serve
    (talks : session.Talks framing near heard sent written) :
    (session.context.runNext ClientJob.craft).2.queue = session.context.queue.tail := by
  obtain ⟨waiting, holds, -⟩ := talks.waits
  cases waiting with
  | nil =>
      rw [holds.runNext_nil, holds.queue]
      rfl
  | cons text rest =>
      rw [talks.runNext_cons holds, holds.queue]
      rfl

/-- The context can write all that waits. -/
theorem Talks.exists_served
    {attended : Attended ClientSession ClientAction}
    (talks : attended.session.Talks framing near heard sent written)
    (still : attended.pending = []) :
    ∃ duties next,
      staff.attendAll? reaction attended duties = some next ∧
        next.session.context.queue = [] := by
  have keeps :
      ∀ before after : Attended ClientSession ClientAction,
        (before.pending = [] ∧
          ∃ written, before.session.Talks framing near heard sent written) →
          staff.attend? reaction before .serve = some after →
            (after.pending = [] ∧
                ∃ written, after.session.Talks framing near heard sent written) ∧
              after.session.context.queue = before.session.context.queue.tail := by
    rintro before after ⟨still, written, talks⟩ attends
    obtain ⟨quiet, more, later⟩ := talks.attend still attends
    obtain rfl := Option.some.inj attends
    exact ⟨⟨quiet, _, later⟩, talks.queue_serve⟩
  obtain ⟨duties, next, goes, -, empty⟩ := Staff.exists_served keeps ⟨still, written, talks⟩
  exact ⟨duties, next, goes, empty⟩

/-- Octets come that do not hold a message which is too long. -/
theorem Talks.hear
    (talks : session.Talks framing near heard sent written)
    {chunk : Bytes}
    (short : framing.overruns (heard ++ chunk) = false) :
    (session.perform (.report near (.read chunk))).2.Talks framing near (heard ++ chunk) sent
      written := by
  obtain ⟨channel, found, same⟩ := talks.known
  obtain ⟨hand, sole⟩ := talks.alone
  obtain ⟨waiting, holds, whole⟩ := talks.waits
  have follows := talks.follows.read chunk
  have reading : ((session.seat near).intake.read chunk).2.closing = false :=
    follows.messages_eq.2.symm.trans short
  have reads : session.read? (.act (.report near (.read chunk))) = some (near, chunk) := by
    simp [read?, found, same]
  have arrives :
      (session.perform (.report near (.read chunk))).2 = session.read near chunk := by
    rcases session.moved_cases (.act (.report near (.read chunk))) with
      ⟨unread, -⟩ | ⟨id, octets, read, moves⟩
    · cases reads.symm.trans unread
    · obtain ⟨rfl, rfl⟩ := Prod.mk.inj (Option.some.inj (reads.symm.trans read))
      exact moves
  rw [arrives, read_of_reading reading sole.accepting]
  exact
    { talks with
      waits := ⟨waiting, holds.withState _, whole⟩
      alone := ⟨hand, sole.workers, sole.accepting⟩
      follows := by
        show Intake.Follows framing (((session.intakes.insert near _).find? near).getD _) _
          (session.core.crew.taken ++ (session.core.crew.queue ++ _))
        rw [Table.find?_insert, if_pos rfl, ← List.append_assoc]
        exact follows }

end ClientSession

end LineProtocol
