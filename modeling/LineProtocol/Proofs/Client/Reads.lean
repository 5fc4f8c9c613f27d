import LineProtocol.Client.Session
import LineProtocol.Proofs.Dispatch.Facade
import LineProtocol.Proofs.Serial.Keeping

/-!
# What a client reads

A client is a `Facade`: its moves are calls and reports, the handler's work and
the jobs of the serial context.  A read goes through the intake of its own
connection, whether that is the current one or not.  Every other move leaves
all intakes alone and hands nothing over.
-/

namespace LineProtocol

/-! ## Jobs -/

namespace ClientCore

@[simp]
theorem crew_connect
    (core : ClientCore)
    (target : Except Fault SocketAddress) :
    (core.connect target).1.crew = core.crew := by
  unfold connect
  split
  · rfl
  · cases target with
    | error cause => rfl
    | ok address => rfl

@[simp]
theorem crew_established
    (core : ClientCore)
    (id : ChannelId) :
    (core.established id).crew = core.crew := by
  unfold established
  split
  · rfl
  · rfl

@[simp]
theorem crew_connectFailed
    (core : ClientCore)
    (id : ChannelId)
    (cause : Fault) :
    (core.connectFailed id cause).crew = core.crew := by
  unfold connectFailed
  split
  · simp only
    split
    · rfl
    · rfl
  · rfl

@[simp]
theorem crew_broke
    (core : ClientCore)
    (id : ChannelId)
    (cause : Fault) :
    (core.broke id cause).crew = core.crew := by
  unfold broke
  split
  · rfl
  · rfl

@[simp]
theorem crew_closed
    (core : ClientCore)
    (id : ChannelId) :
    (core.closed id).crew = core.crew := by
  unfold closed
  split
  · rfl
  · rfl

@[simp]
theorem crew_send
    (core : ClientCore)
    (message : String) :
    (core.send message).crew = core.crew := by
  unfold send
  split
  · simp only
    split
    · rfl
    · rfl
  · rfl

@[simp]
theorem crew_disconnect (core : ClientCore) :
    core.disconnect.2.crew = core.crew := by
  unfold disconnect
  split
  · rfl
  · rfl
  · simp only
    split
    · rfl
    · rfl

theorem crew_finish (core : ClientCore) :
    core.finish.crew = core.crew.stop := by
  unfold finish
  simp only
  split
  · rfl
  · rfl

end ClientCore

/-- No job hands a message over. -/
theorem ClientJob.keeps_quiet :
    ClientJob.craft.Keeps fun before after => before.crew.Quiet after.crew where
  refl core := .refl core.crew
  trans _ _ _ := .trans
  run stopped task core := by
    cases task with
    | connect target => simpa [craft, run] using Crew.Quiet.refl core.crew
    | send message => simpa [craft, run] using Crew.Quiet.refl core.crew
    | disconnect => simpa [craft, run] using Crew.Quiet.refl core.crew
    | established id => simpa [craft, run] using Crew.Quiet.refl core.crew
    | connectFailed id cause => simpa [craft, run] using Crew.Quiet.refl core.crew
    | broke id cause => simpa [craft, run] using Crew.Quiet.refl core.crew
    | closed id => simpa [craft, run] using Crew.Quiet.refl core.crew
    | finish => simpa [craft, run, ClientCore.crew_finish] using core.crew.quiet_stop

/-! ## Sessions -/

namespace ClientSession

/-- Nothing was read. -/
structure Quiet (before after : ClientSession) : Prop where
  intakes : after.intakes = before.intakes
  framing : after.framing = before.framing
  crew : before.core.crew.Quiet after.core.crew

theorem Quiet.refl (session : ClientSession) : Quiet session session :=
  ⟨rfl, rfl, .refl _⟩

theorem Quiet.trans
    {first second third : ClientSession}
    (one : Quiet first second)
    (two : Quiet second third) :
    Quiet first third :=
  ⟨two.intakes.trans one.intakes, two.framing.trans one.framing, one.crew.trans two.crew⟩

/-- What a serial context does is quiet. -/
theorem quiet_context
    {session : ClientSession}
    {context : ClientContext}
    (kept : session.core.crew.Quiet context.state.crew) :
    Quiet session { session with context } :=
  ⟨rfl, rfl, kept⟩

theorem quiet_offer
    (session : ClientSession)
    (job : ClientJob) :
    Quiet session (session.offer job) := by
  have kept : session.core.crew.Quiet (session.context.submit job).2.state.crew := by
    rw [Serial.state_submit]
    exact .refl _
  exact quiet_context kept

theorem quiet_submit
    (session : ClientSession)
    (job : ClientJob) :
    Quiet session (session.submit job).2 :=
  session.quiet_offer job

theorem quiet_alterTransport
    (session : ClientSession)
    (change : Transport → Transport) :
    Quiet session (session.alterTransport change) :=
  ⟨rfl, rfl, .refl _⟩

theorem quiet_handle
    (session : ClientSession)
    (message : String) :
    Quiet session (session.handle message) := by
  unfold handle
  refine List.foldlRecOn (session.handler message).actions _ ?_ ?_
  · exact ⟨rfl, rfl, .refl _⟩
  · intro given quiet action _
    exact quiet.trans (given.quiet_offer action.job)

theorem quiet_handleAll (session : ClientSession) : Quiet session session.handleAll := by
  unfold handleAll
  refine List.foldlRecOn session.core.crew.queue _ ?_ ?_
  · exact ⟨rfl, rfl, Crew.quiet_settle _ _⟩
  · intro given quiet message _
    exact quiet.trans (given.quiet_handle message)

theorem quiet_connect
    (session : ClientSession)
    (host : String)
    (port : UInt16)
    (lookup : Lookup) :
    Quiet session (session.connect host port lookup).2 := by
  unfold connect
  split
  · exact .refl session
  · exact session.quiet_submit _

theorem quiet_beginShutdown (session : ClientSession) :
    Quiet session session.beginShutdown.2 :=
  quiet_context (ClientJob.keeps_quiet.call session.context .disconnect)

theorem quiet_awaitClose
    (session : ClientSession)
    (ticket : Ticket) :
    Quiet session (session.awaitClose ticket) := by
  unfold awaitClose
  split
  · exact .refl session
  · exact ⟨rfl, rfl, .refl _⟩

theorem quiet_finishShutdown (session : ClientSession) :
    Quiet session session.finishShutdown.2 := by
  have finished := quiet_context (ClientJob.keeps_quiet.finish session.context .finish)
  unfold finishShutdown
  simp only
  split
  · exact finished
  · exact finished
  · exact finished

theorem quiet_shutdown (session : ClientSession) : Quiet session session.shutdown.2 := by
  have begun := session.quiet_beginShutdown
  unfold shutdown
  split
  · exact .refl session
  · split
    · rename_i rest phase
      rw [phase] at begun
      exact begun
    · rename_i cause rest _ phase
      rw [phase] at begun
      exact begun
    · rename_i rest phase
      rw [phase] at begun
      exact begun.trans rest.quiet_finishShutdown
    · rename_i ticket rest phase
      rw [phase] at begun
      exact (begun.trans (rest.quiet_awaitClose ticket)).trans
        (rest.awaitClose ticket).quiet_finishShutdown

theorem quiet_call
    {session : ClientSession}
    {action : ClientSession → Except Fault Unit × ClientSession}
    (quiet : Quiet session (action session).2) :
    Quiet session (session.call action).2 := by
  unfold call
  split
  · exact quiet
  · exact .refl session

/-- What a transport reports is quiet, apart from octets that arrived. -/
theorem quiet_hear
    (session : ClientSession)
    (channel : Channel)
    {report : Report}
    (unread : ∀ chunk, report ≠ .read chunk) :
    Quiet session (session.hear channel report) := by
  cases report with
  | established marks => exact session.quiet_offer _
  | connectFailed reason marks => exact session.quiet_offer _
  | read chunk => exact (unread chunk rfl).elim
  | broke reason => exact session.quiet_offer _
  | closed marks =>
      refine (session.quiet_offer (.closed channel.id)).trans ?_
      exact quiet_alterTransport _ (·.settle (· = channel.id) .confirmed)

/-! ## Reads -/

/-- The part of a client that reads a connection. -/
def seat
    (session : ClientSession)
    (channel : ChannelId) :
    Seat String :=
  { intake := (session.intakes.find? channel).getD (.ofFraming session.framing)
    address := id }

theorem foldl_note
    (session : ClientSession)
    (channel : ChannelId)
    (faults : List FrameFault) :
    faults.foldl
        (fun session fault => session.note (Intake.noticeOf channel fault)) session =
      { session with
        notices := session.notices ++ faults.map (Intake.noticeOf channel) } := by
  induction faults generalizing session with
  | nil => simp
  | cons fault rest ih =>
      rw [List.foldl_cons, ih]
      simp [note]

theorem read_eq
    (session : ClientSession)
    (channel : ChannelId)
    (chunk : Bytes) :
    (session.read channel chunk).intakes =
        session.intakes.insert channel ((session.seat channel).intake.read chunk).2 ∧
      (session.read channel chunk).framing = session.framing ∧
      (session.read channel chunk).core.crew =
        ((session.seat channel).intake.read chunk).1.messages.foldl
          (fun crew message => (crew.dispatch message).2) session.core.crew ∧
      (session.read channel chunk).core.transport =
        if ((session.seat channel).intake.read chunk).2.closing &&
            !(session.seat channel).intake.closing then
          (session.core.transport.close channel).2
        else session.core.transport := by
  unfold read
  simp only [foldl_note, seat]
  split
  · rename_i closes
    exact ⟨rfl, rfl, rfl, (if_pos closes).symm⟩
  · rename_i stays
    exact ⟨rfl, rfl, rfl, (if_neg stays).symm⟩

/-! ## Runs -/

/-- Makes one move. -/
def moved (session : ClientSession) : Move Step → ClientSession
  | .act action => (session.perform action).2
  | .work => session.handleAll
  | .serve => { session with context := (session.context.runNext ClientJob.craft).2 }

/-- The octets that a move brings. -/
def read? (session : ClientSession) : Move Step → Option (ChannelId × Bytes)
  | .act (.report id (.read chunk)) =>
      (session.core.transport.channel? id).map fun channel => (channel.id, chunk)
  | _ => none

/-- A client as something that reads connections. -/
def facade : Facade ClientSession (Move Step) String where
  moved := moved
  read? := read?
  shared session := ⟨session.core.crew, session.core.transport⟩
  seat? session channel := some (session.seat channel)

/-- A move that brings octets is a read, and no other move is. -/
theorem moved_cases
    (session : ClientSession)
    (step : Move Step) :
    (session.read? step = none ∧ Quiet session (session.moved step)) ∨
      ∃ channel chunk,
        session.read? step = some (channel, chunk) ∧
          session.moved step = session.read channel chunk := by
  cases step with
  | work => exact .inl ⟨rfl, session.quiet_handleAll⟩
  | serve =>
      exact .inl ⟨rfl, quiet_context (ClientJob.keeps_quiet.runNext session.context)⟩
  | act action =>
      cases action with
      | connect host port lookup failure reenters =>
          refine .inl ⟨rfl, (session.quiet_alterTransport _).trans (quiet_call ?_)⟩
          exact quiet_connect _ host port lookup
      | send message => exact .inl ⟨rfl, quiet_call (session.quiet_submit _)⟩
      | disconnect => exact .inl ⟨rfl, quiet_call (session.quiet_submit _)⟩
      | shutdown => exact .inl ⟨rfl, quiet_call session.quiet_shutdown⟩
      | drop =>
          refine .inl ⟨rfl, quiet_call ?_⟩
          exact session.quiet_shutdown.trans ⟨rfl, rfl, .refl _⟩
      | configure closeMode refusesWrites =>
          exact .inl
            ⟨rfl, session.quiet_alterTransport (·.configured closeMode refusesWrites)⟩
      | report id report =>
          cases found : session.core.transport.channel? id with
          | none =>
              have unheard : session.moved (.act (.report id report)) = session := by
                simp only [moved, perform, found]
              rw [unheard]
              refine .inl ⟨?_, .refl session⟩
              cases report <;> simp [read?, found]
          | some channel =>
              have heard :
                  session.moved (.act (.report id report)) =
                    (session.alterTransport (·.alter id report.mark)).hear channel report := by
                simp only [moved, perform, found]
              rw [heard]
              by_cases reading : ∃ chunk, report = .read chunk
              · obtain ⟨chunk, rfl⟩ := reading
                refine .inr ⟨channel.id, chunk, by simp [read?, found], ?_⟩
                have same :
                    session.alterTransport (·.alter id (Report.read chunk).mark) =
                      session := by
                  simp [alterTransport, alter, Report.mark]
                simp only [same, hear]
              · have marked := session.quiet_alterTransport (·.alter id report.mark)
                refine .inl ⟨?_, marked.trans ?_⟩
                · cases report <;> simp_all [read?]
                · exact quiet_hear _ channel fun chunk equal => reading ⟨chunk, equal⟩

theorem facade_lawful (framing : Framing) :
    facade.Lawful framing fun session => session.framing = framing where
  kept session step same := by
    rcases session.moved_cases step with ⟨-, quiet⟩ | ⟨channel, chunk, -, moves⟩
    · exact quiet.framing.trans same
    · show (session.moved step).framing = framing
      rw [moves, (session.read_eq channel chunk).2.1, same]
  accepted session step same accepting := by
    rcases session.moved_cases step with ⟨-, quiet⟩ | ⟨channel, chunk, -, moves⟩
    · exact quiet.crew.accepting accepting
    · have after : (session.moved step).core.crew.accepting = true := accepting
      rw [moves, (session.read_eq channel chunk).2.2.1] at after
      exact (Crew.accepting_foldl_dispatch _ _ id).symm.trans after
  advances session step same accepting := by
    rcases session.moved_cases step with ⟨unread, quiet⟩ | ⟨channel, chunk, reads, moves⟩
    · have seats : facade.seat? (session.moved step) = facade.seat? session := by
        funext channel
        simp [facade, seat, quiet.intakes, quiet.framing]
      refine .quiet unread ?_ ?_ ?_
      · exact List.drop_of_length_le quiet.crew.queue
      · intro channel seat here
        exact (congrFun seats channel).trans here
      · intro channel seat away
        simp [facade] at away
    · obtain ⟨intakes, framings, crew, transport⟩ := session.read_eq channel chunk
      rw [← moves] at intakes framings crew transport
      have after : (session.moved step).core.crew.accepting = true := accepting
      rw [crew] at after
      have before := (Crew.accepting_foldl_dispatch _ _ id).symm.trans after
      have read : (facade.deed session step).Reads channel chunk (session.seat channel) :=
        ⟨reads, crew.trans (Crew.foldl_dispatch before _ id), transport⟩
      refine .reading rfl read ?_ ?_
      · simp [facade, seat, intakes, Table.find?_insert]
      · intro other different
        simp [facade, seat, intakes, framings, Table.find?_insert, different]

/-- After a run of a client whose crew takes messages, all intakes have followed
their connections. -/
theorem seated
    (names : String × String)
    (settings : ClientSettings)
    (transport : Transport)
    (handler : String → Reaction ClientAction)
    (moves : List (Move Step))
    (accepting :
      (facade.after (start names settings transport handler) moves).core.crew.accepting =
        true) :
    Seated settings.framing
      (facade.seat? (facade.after (start names settings transport handler) moves))
      (facade.deeds (start names settings transport handler) moves) := by
  refine (facade_lawful settings.framing).seated rfl ?_ moves accepting
  intro channel seat here
  simp only [facade, Option.some.injEq] at here
  rw [← here]
  rfl

/-! ## Steps -/

/-- A step is a run: the call or report, what the handler makes of the messages that came,
and then the jobs that wait, one after the other. -/
theorem exists_serves_step
    (session : ClientSession)
    (action : Step) :
    ∃ jobs,
      (session.step action).2 =
        facade.after session (.act action :: .work :: List.replicate jobs .serve) := by
  obtain ⟨jobs, served⟩ :=
    Serial.exists_replicate_runFor ClientJob.craft moved .serve
      (fun context => { (session.perform action).2.handleAll with context })
      (fun _ => rfl) _ (session.perform action).2.handleAll.context
  exact ⟨jobs, served⟩

end ClientSession

end LineProtocol
