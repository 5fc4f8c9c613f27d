import LineProtocol.Proofs.Dispatch.Attended
import LineProtocol.Proofs.Echo.Pipe
import LineProtocol.Proofs.Server.Replies

/-!
# A server that echoes one client

A client is on the roster and stays there, and the handler sends each message back to where
it came from.  `Echoes` says where everything is that came from the client: what waits for
the handler, what the handler has still to send back, what waits in the context's queue,
and what was written.
-/

namespace LineProtocol

namespace ServerCore

/-- A message to a client on the roster is written on the client's channel, which carries
it. -/
theorem send_of_carries
    {core : ServerCore}
    {framing : Framing}
    {identity : Identity}
    {id : ChannelId}
    {octets : Bytes}
    (listed : core.roster.member? identity = some { identity, channel := id })
    (encoder : core.encoder = framing.encoder)
    (carries : core.transport.Carries id octets)
    (text : String) :
    core.send text (some identity) =
      { core with transport := core.transport.record (.write id (framing.frame text)) } := by
  rw [send, recipient, listed]
  simp only [encoder, Framing.encode_encoder, carries.write]

end ServerCore

namespace ServerSession

/-- What the handler does with a message. -/
def reaction
    (session : ServerSession)
    (parcel : Parcel) :
    Reaction ServerAction :=
  session.handler parcel.text

/-- A chunk that leaves the intake open gives its messages to the crew and changes nothing
else that jobs work on. -/
theorem read_of_reading
    {session : ServerSession}
    {id : ChannelId}
    {link : Link}
    {chunk : Bytes}
    (reading : (link.intake.read chunk).2.closing = false)
    (accepting : session.core.crew.accepting = true) :
    session.read id link chunk =
      { session with
        links := session.links.insert id { link with intake := (link.intake.read chunk).2 }
        notices :=
          session.notices ++ (link.intake.read chunk).1.faults.map (Intake.noticeOf id)
        context :=
          { session.context with
            state :=
              { session.core with
                crew :=
                  { session.core.crew with
                    queue :=
                      session.core.crew.queue ++
                        (link.intake.read chunk).1.messages.map fun text =>
                          { sender := link.identity, text } } } } } := by
  have handed :=
    Crew.foldl_dispatch accepting (link.intake.read chunk).1.messages fun text =>
      ({ sender := link.identity, text } : Parcel)
  rw [← handed]
  unfold read
  simp only [foldl_note]
  split
  · rename_i closes
    change ((link.intake.read chunk).2.closing && _) = true at closes
    rw [reading] at closes
    cases closes
  · rfl

/-- A server that echoes a client: what has come from the client, and what was written
back. -/
structure Echoes
    (attended : Attended ServerSession ServerAction)
    (framing : Framing)
    (far : ChannelId)
    (identity : Identity)
    (heard : Bytes)
    (replied : List String) : Prop where
  ways : attended.session.framing = framing
  listed : attended.session.core.roster.member? identity = some { identity, channel := far }
  carries : attended.session.core.transport.Carries far (framing.written replied)
  encoder : attended.session.core.encoder = framing.encoder
  handler : attended.session.handler = echo
  senders : ∀ parcel ∈ attended.session.core.crew.jobs, parcel.sender = identity
  linked :
    ∃ intake,
      attended.session.links.find? far = some { identity, intake } ∧
        intake.Follows framing heard (attended.session.core.crew.jobs.map Parcel.text)
  /-- Who has nothing in hand has nothing to ask for. -/
  alone :
    ∃ hand,
      attended.session.core.crew.Sole hand ∧ (hand = none → attended.pending = []) ∧
        ∀ parcel, hand = some parcel → parcel.sender = identity
  /-- What was taken up was written back, or waits to be written, or is still to be asked
  for. -/
  owes :
    ∃ waiting owed,
      attended.session.context.Holds (waiting.map fun text => .send text (some identity)) ∧
        attended.pending = owed.map (fun text => .send text (some .sender)) ∧
          attended.session.core.crew.taken.map Parcel.text = replied ++ (waiting ++ owed)

variable
  {attended next : Attended ServerSession ServerAction}
  {framing : Framing}
  {far : ChannelId}
  {identity : Identity}
  {heard : Bytes}
  {replied : List String}

/-- The context writes back what waits first. -/
theorem Echoes.runNext_cons
    (echoes : Echoes attended framing far identity heard replied)
    {text : String}
    {rest : List String}
    (holds :
      attended.session.context.Holds
        ((text :: rest).map fun text => .send text (some identity))) :
    (attended.session.context.runNext ServerJob.craft).2 =
      { attended.session.context with
        state :=
          { attended.session.core with
            transport :=
              attended.session.core.transport.record (.write far (framing.frame text)) }
        queue := (rest.map fun text => ServerJob.send text (some identity)).map .run } := by
  have ran :
      ServerJob.craft.run attended.session.context.stopped (.send text (some identity))
          attended.session.core =
        { state := attended.session.core.send text (some identity), answer := some [] } :=
    rfl
  rw [holds.runNext_cons ran,
    ServerCore.send_of_carries echoes.listed echoes.encoder echoes.carries]

/-- The context writes something back, if anything waits. -/
theorem Echoes.serve
    (echoes : Echoes attended framing far identity heard replied) :
    ∃ more,
      Echoes
        { attended with
          session :=
            { attended.session with
              context := (attended.session.context.runNext ServerJob.craft).2 } }
        framing far identity heard (replied ++ more) := by
  obtain ⟨waiting, owed, holds, asks, whole⟩ := echoes.owes
  cases waiting with
  | nil =>
      refine ⟨[], ?_⟩
      rw [holds.runNext_nil, List.append_nil]
      exact echoes
  | cons text rest =>
      refine ⟨[text], ?_⟩
      rw [echoes.runNext_cons holds]
      exact
        { echoes with
          carries := echoes.carries.record text
          owes := ⟨rest, owed, ⟨holds.stopped, holds.ended, rfl⟩,
            asks, whole.trans (by simp)⟩ }

/-- What the crew does with the messages that came leaves everything else where it is. -/
theorem Echoes.withCrew
    (echoes : Echoes attended framing far identity heard replied)
    (crew : Crew Parcel)
    {messages : List Parcel}
    {pending : List ServerAction}
    (jobs : crew.jobs = attended.session.core.crew.jobs)
    (alone :
      ∃ hand,
        crew.Sole hand ∧ (hand = none → pending = []) ∧
          ∀ parcel, hand = some parcel → parcel.sender = identity)
    (owes :
      ∃ waiting owed,
        attended.session.context.Holds
            (waiting.map fun text => .send text (some identity)) ∧
          pending = owed.map (fun text => .send text (some .sender)) ∧
            crew.taken.map Parcel.text = replied ++ (waiting ++ owed)) :
    Echoes
      { session := { attended.session.alter fun core => { core with crew } with messages }
        pending }
      framing far identity heard replied := by
  obtain ⟨waiting, owed, holds, asks, whole⟩ := owes
  have senders := echoes.senders
  have linked := echoes.linked
  rw [← jobs] at senders linked
  exact
    { echoes with
      senders
      linked
      alone
      owes := ⟨waiting, owed, holds.withState _, asks, whole⟩ }

/-- The thread takes up the next message. -/
theorem Echoes.take
    (echoes : Echoes attended framing far identity heard replied)
    (attends : staff.Attends reaction attended .take next) :
    Echoes next framing far identity heard replied := by
  obtain ⟨hand, sole, nothing, theirs⟩ := echoes.alone
  obtain ⟨waiting, owed, holds, asks, whole⟩ := echoes.owes
  cases attends with
  | @take first rest idle waits =>
      change attended.session.core.crew.workers = [none] at idle
      change attended.session.core.crew.queue = first :: rest at waits
      have free : hand = none := (List.cons.inj (sole.workers.symm.trans idle)).1
      obtain rfl := List.map_eq_nil_iff.mp (asks.symm.trans (nothing free))
      have own : first.sender = identity :=
        echoes.senders first (by simp [Crew.jobs, waits])
      have wants :
          (attended.session.reaction first).actions = [.send first.text (some .sender)] := by
        rw [reaction, echoes.handler, echo]
      refine echoes.withCrew
        { attended.session.core.crew with
          workers := [some first]
          queue := rest
          taken := attended.session.core.crew.taken ++ [first] }
        ?_ ⟨some first, ⟨rfl, sole.accepting⟩, by simp, ?_⟩
        ⟨waiting, [first.text], holds, wants, ?_⟩
      · simp [Crew.jobs, waits]
      · intro parcel same
        rw [← Option.some.inj same]
        exact own
      · simp [whole]

/-- The handler asks for a message to be sent back to who sent it. -/
theorem Echoes.ask
    (echoes : Echoes attended framing far identity heard replied)
    (attends : staff.Attends reaction attended .ask next) :
    Echoes next framing far identity heard replied := by
  obtain ⟨hand, sole, nothing, theirs⟩ := echoes.alone
  obtain ⟨waiting, owed, holds, asks, whole⟩ := echoes.owes
  cases attends with
  | @ask held wanted pending works wants =>
      change attended.session.core.crew.workers = [some held] at works
      have busy : hand = some held := (List.cons.inj (sole.workers.symm.trans works)).1
      obtain ⟨text, rest, rfl, rfl, rfl⟩ := List.map_eq_cons_iff.mp (asks.symm.trans wants)
      have job :
          staff.jobOf attended.session held (.send text (some .sender)) =
            .send text (some identity) := by
        rw [← theirs held busy]
        rfl
      have submitted :
          staff.closedown.withContext attended.session
              ((staff.closedown.context attended.session).submit
                (.send text (some identity))).2 =
            { attended.session with
              context := (attended.session.context.submit (.send text (some identity))).2 } :=
        rfl
      rw [job, submitted, holds.submit]
      exact
        { echoes with
          alone :=
            ⟨hand, sole, fun free => (Option.some_ne_none held (busy.symm.trans free)).elim,
              theirs⟩
          owes :=
            ⟨waiting ++ [text], rest, ⟨holds.stopped, holds.ended, by simp⟩, rfl,
              whole.trans (by simp)⟩ }

/-- The handler ends. -/
theorem Echoes.finish
    (echoes : Echoes attended framing far identity heard replied)
    (attends : staff.Attends reaction attended .finish next) :
    Echoes next framing far identity heard replied := by
  obtain ⟨hand, sole, nothing, theirs⟩ := echoes.alone
  obtain ⟨waiting, owed, holds, asks, whole⟩ := echoes.owes
  cases attends with
  | @finish held works done ended notices =>
      exact echoes.withCrew
        { attended.session.core.crew with workers := [none], ended, notices }
        rfl ⟨none, ⟨rfl, sole.accepting⟩, fun _ => rfl, by simp⟩
        ⟨waiting, owed, holds, done.symm.trans asks, whole⟩

/-- Whatever the context and the thread do next, nothing is lost on the way. -/
theorem Echoes.attend
    (echoes : Echoes attended framing far identity heard replied)
    {duty : Duty}
    (attends : staff.attend? reaction attended duty = some next) :
    ∃ more, Echoes next framing far identity heard (replied ++ more) := by
  obtain ⟨hand, sole, -⟩ := echoes.alone
  have goes := staff.attends_of_attend? sole.workers attends
  have still : Echoes next framing far identity heard replied →
      ∃ more, Echoes next framing far identity heard (replied ++ more) :=
    fun echoes => ⟨[], (List.append_nil replied).symm ▸ echoes⟩
  cases duty with
  | serve =>
      cases goes
      exact echoes.serve
  | take => exact still (echoes.take goes)
  | ask => exact still (echoes.ask goes)
  | finish => exact still (echoes.finish goes)

/-- A job of the context leaves only fewer of them, and the crew as it is. -/
theorem Echoes.queue_serve
    (echoes : Echoes attended framing far identity heard replied) :
    (attended.session.context.runNext ServerJob.craft).2.queue =
        attended.session.context.queue.tail ∧
      (attended.session.context.runNext ServerJob.craft).2.state.crew =
        attended.session.core.crew := by
  obtain ⟨waiting, owed, holds, -⟩ := echoes.owes
  cases waiting with
  | nil =>
      rw [holds.runNext_nil, holds.queue]
      exact ⟨rfl, rfl⟩
  | cons text rest =>
      rw [echoes.runNext_cons holds, holds.queue]
      exact ⟨rfl, rfl⟩

/-- The context can write back all that waits. -/
theorem Echoes.exists_served
    (echoes : Echoes attended framing far identity heard replied) :
    ∃ duties next,
      staff.attendAll? reaction attended duties = some next ∧
        next.session.context.queue = [] ∧ next.pending = attended.pending ∧
          next.session.core.crew = attended.session.core.crew := by
  have keeps :
      ∀ before after : Attended ServerSession ServerAction,
        ((before.pending = attended.pending ∧
              before.session.core.crew = attended.session.core.crew) ∧
            ∃ replied, Echoes before framing far identity heard replied) →
          staff.attend? reaction before .serve = some after →
            ((after.pending = attended.pending ∧
                  after.session.core.crew = attended.session.core.crew) ∧
                ∃ replied, Echoes after framing far identity heard replied) ∧
              after.session.context.queue = before.session.context.queue.tail := by
    rintro before after ⟨⟨pending, crew⟩, replied, echoes⟩ attends
    obtain ⟨more, later⟩ := echoes.attend attends
    obtain rfl := Option.some.inj attends
    obtain ⟨queue, same⟩ := echoes.queue_serve
    exact ⟨⟨⟨pending, same.trans crew⟩, _, later⟩, queue⟩
  obtain ⟨duties, next, goes, ⟨⟨pending, crew⟩, -⟩, empty⟩ :=
    Staff.exists_served keeps ⟨⟨rfl, rfl⟩, replied, echoes⟩
  exact ⟨duties, next, goes, empty, pending, crew⟩

/-- Octets come that do not hold a message which is too long. -/
theorem Echoes.hear
    (echoes : Echoes attended framing far identity heard replied)
    {chunk : Bytes}
    (short : framing.overruns (heard ++ chunk) = false) :
    Echoes
      { attended with session := (attended.session.perform (.report far (.read chunk))).2 }
      framing far identity (heard ++ chunk) replied := by
  obtain ⟨intake, found, before⟩ := echoes.linked
  obtain ⟨hand, sole, nothing, theirs⟩ := echoes.alone
  obtain ⟨waiting, owed, holds, asks, whole⟩ := echoes.owes
  have follows := before.read chunk
  have reading : (intake.read chunk).2.closing = false :=
    follows.messages_eq.2.symm.trans short
  let parcels : List Parcel :=
    (intake.read chunk).1.messages.map fun text => { sender := identity, text }
  have arrives :
      (attended.session.perform (.report far (.read chunk))).2 =
        attended.session.read far { identity, intake } chunk := by
    have same :
        attended.session.alterTransport (·.alter far (Report.read chunk).mark) =
          attended.session := by
      simp [alterTransport, alter, Report.mark]
    simp only [perform, report, found, same, ServerSession.hear]
  have own :
      ∀ parcel ∈ attended.session.core.crew.jobs ++ parcels, parcel.sender = identity := by
    intro parcel there
    rcases List.mem_append.mp there with earlier | new
    · exact echoes.senders parcel earlier
    · obtain ⟨text, -, rfl⟩ := List.mem_map.mp new
      rfl
  have texts : parcels.map Parcel.text = (intake.read chunk).1.messages := by
    simp [parcels, Function.comp_def]
  rw [← texts, ← List.map_append] at follows
  rw [Crew.jobs, List.append_assoc] at own follows
  rw [arrives, read_of_reading reading sole.accepting]
  exact
    { echoes with
      senders := own
      linked :=
        ⟨(intake.read chunk).2, (Table.find?_insert ..).trans (if_pos rfl), follows⟩
      alone := ⟨hand, ⟨sole.workers, sole.accepting⟩, nothing, theirs⟩
      owes := ⟨waiting, owed, holds.withState _, asks, whole⟩ }

end ServerSession

end LineProtocol
