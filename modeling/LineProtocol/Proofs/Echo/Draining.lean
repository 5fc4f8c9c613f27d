import LineProtocol.Proofs.Echo.Exchange

/-!
# Everything can come back

That nothing is lost on the way leaves it open whether anything arrives.  From every state
that an exchange comes to it can go on, without anything being sent, to one where nothing
is under way: the client's context writes what waits for it, the octets come to the server,
its thread and its context work off what waits for them, the octets come back, and the
client's thread works off what waits for it.  Nobody waits for anybody else.
-/

namespace LineProtocol

namespace Exchange

/-- The exchange can go on to this, and nothing is sent. -/
def GoesTo (exchange next : Exchange) : Prop :=
  ∃ events, sent events = [] ∧ exchange.run? events = some next

theorem GoesTo.trans
    {exchange between next : Exchange}
    (first : exchange.GoesTo between)
    (second : between.GoesTo next) :
    exchange.GoesTo next := by
  obtain ⟨events, silent, ran⟩ := first
  obtain ⟨later, quiet, goes⟩ := second
  refine ⟨events ++ later, ?_, foldlM_append_of_run ran goes⟩
  rw [sent, List.filterMap_append]
  exact List.append_eq_nil_iff.mpr ⟨silent, quiet⟩

theorem goesTo_of_client
    {exchange : Exchange}
    {client : Attended ClientSession ClientAction}
    {duties : List Duty}
    (attends :
      ClientSession.staff.attendAll? ClientSession.reaction exchange.client duties = some client) :
    exchange.GoesTo { exchange with client } := by
  have steps :
      ∀ client duty,
        step? { exchange with client } (.client duty) =
          (ClientSession.staff.attend? ClientSession.reaction client duty).map fun client =>
            { exchange with client } :=
    fun _ _ => rfl
  have silent : sent (duties.map .client) = [] := by simp [sent, Event.sent?, List.filterMap_map]
  exact ⟨_, silent, foldlM_map_of_part steps attends⟩

theorem goesTo_of_server
    {exchange : Exchange}
    {server : Attended ServerSession ServerAction}
    {duties : List Duty}
    (attends :
      ServerSession.staff.attendAll? ServerSession.reaction exchange.server duties = some server) :
    exchange.GoesTo { exchange with server } := by
  have steps :
      ∀ server duty,
        step? { exchange with server } (.server duty) =
          (ServerSession.staff.attend? ServerSession.reaction server duty).map fun server =>
            { exchange with server } :=
    fun _ _ => rfl
  have silent : sent (duties.map .server) = [] := by simp [sent, Event.sent?, List.filterMap_map]
  exact ⟨_, silent, foldlM_map_of_part steps attends⟩

/-- What was whole and only grows stays as it was. -/
theorem eq_of_prefix
    {before after whole : List α}
    (full : before = whole)
    (grows : before <+: after)
    (bounded : after <+: whole) :
    after = whole := by
  subst full
  exact bounded.eq_of_length_le grows.length_le

variable
  {exchange next : Exchange}
  {framing serverFraming : Framing}
  {identity : Identity}
  {texts : List String}
  {traffic : Traffic}

theorem Flows.goesTo
    (flows : exchange.Flows framing serverFraming identity texts traffic)
    (delimiter : framing.delimiter = serverFraming.delimiter)
    (fits : ∀ text ∈ texts, framing.Fits text ∧ serverFraming.Fits text)
    (goes : exchange.GoesTo next) :
    ∃ later,
      next.Flows framing serverFraming identity texts later ∧ traffic.Grows later := by
  obtain ⟨events, silent, ran⟩ := goes
  have whole : texts ++ sent events = texts := by rw [silent, List.append_nil]
  rw [← whole] at fits
  have later := flows.run delimiter fits ran
  rwa [whole] at later

/-! ## One stage after the other -/

/-- The client's context writes all that was sent. -/
theorem Flows.exists_written
    (flows : exchange.Flows framing serverFraming identity texts traffic)
    (delimiter : framing.delimiter = serverFraming.delimiter)
    (fits : ∀ text ∈ texts, framing.Fits text ∧ serverFraming.Fits text) :
    ∃ next later,
      exchange.GoesTo next ∧ next.Flows framing serverFraming identity texts later ∧
        later.written = texts := by
  obtain ⟨duties, client, attends, empty⟩ := flows.talks.exists_served flows.still
  have goes := goesTo_of_client attends
  obtain ⟨later, flows, -⟩ := flows.goesTo delimiter fits goes
  exact ⟨_, later, goes, flows, flows.written_eq empty⟩

/-- All octets come to the server. -/
theorem Flows.exists_forwarded
    (flows : exchange.Flows framing serverFraming identity texts traffic)
    (delimiter : framing.delimiter = serverFraming.delimiter)
    (fits : ∀ text ∈ texts, framing.Fits text ∧ serverFraming.Fits text) :
    ∃ next later,
      exchange.GoesTo next ∧ next.Flows framing serverFraming identity texts later ∧
        traffic.Grows later ∧ later.outward = framing.written later.written := by
  have goes : exchange.GoesTo _ := ⟨[.forward exchange.outbound.length], rfl, rfl⟩
  obtain ⟨later, flows', grows⟩ := flows.goesTo delimiter fits goes
  refine ⟨_, later, goes, flows', grows, flows'.outward_eq ?_⟩
  have under : exchange.forwarded ≤ exchange.outbound.length := by
    rw [flows.forwarded, flows.outbound]
    exact flows.outward.length_le
  show exchange.forwarded + _ = exchange.outbound.length
  rw [List.length_take, List.length_drop]
  omega

/-- The server's thread and its context work off all that came. -/
theorem Flows.exists_replied
    (flows : exchange.Flows framing serverFraming identity texts traffic)
    (delimiter : framing.delimiter = serverFraming.delimiter)
    (fits : ∀ text ∈ texts, framing.Fits text ∧ serverFraming.Fits text)
    (written : traffic.written = texts)
    (outward : traffic.outward = framing.written traffic.written) :
    ∃ next later,
      exchange.GoesTo next ∧ next.Flows framing serverFraming identity texts later ∧
        traffic.Grows later ∧ later.replied = texts := by
  obtain ⟨hand, sole, nothing, -⟩ := flows.echoes.alone
  obtain ⟨duties, between, attends, asked, worked⟩ :=
    Staff.exists_idle ServerSession.staff_lawful sole.workers nothing
  have works := goesTo_of_server attends
  obtain ⟨_, flows', -⟩ := flows.goesTo delimiter fits works
  obtain ⟨more, server, serves, empty, pending, crew⟩ := flows'.echoes.exists_served
  have goes : exchange.GoesTo { exchange with server } := works.trans (goesTo_of_server serves)
  obtain ⟨later, flows, grows⟩ := flows.goesTo delimiter fits goes
  have whole : later.written = texts := eq_of_prefix written grows.written flows.writes
  have arrived : later.outward = framing.written later.written := by
    rw [written] at outward
    have bounded := flows.outward
    rw [whole] at bounded ⊢
    exact eq_of_prefix outward grows.outward bounded
  have taken :=
    flows.taken_eq delimiter (fun text member => (fits text member).2) whole arrived
      ((congrArg Crew.queue crew).trans worked)
  exact ⟨_, later, goes, flows, grows, flows.replied_eq taken empty (pending.trans asked)⟩

/-- All octets come back. -/
theorem Flows.exists_returned
    (flows : exchange.Flows framing serverFraming identity texts traffic)
    (delimiter : framing.delimiter = serverFraming.delimiter)
    (fits : ∀ text ∈ texts, framing.Fits text ∧ serverFraming.Fits text) :
    ∃ next later,
      exchange.GoesTo next ∧ next.Flows framing serverFraming identity texts later ∧
        traffic.Grows later ∧ later.inward = serverFraming.written later.replied := by
  have goes : exchange.GoesTo _ := ⟨[.back exchange.inbound.length], rfl, rfl⟩
  obtain ⟨later, flows', grows⟩ := flows.goesTo delimiter fits goes
  refine ⟨_, later, goes, flows', grows, flows'.inward_eq ?_⟩
  have under : exchange.returned ≤ exchange.inbound.length := by
    rw [flows.returned, flows.inbound]
    exact flows.inward.length_le
  show exchange.returned + _ = exchange.inbound.length
  rw [List.length_take, List.length_drop]
  omega

/-- The client's thread works off all that came back. -/
theorem Flows.exists_given
    (flows : exchange.Flows framing serverFraming identity texts traffic)
    (delimiter : framing.delimiter = serverFraming.delimiter)
    (fits : ∀ text ∈ texts, framing.Fits text ∧ serverFraming.Fits text) :
    ∃ next later,
      exchange.GoesTo next ∧ next.Flows framing serverFraming identity texts later ∧
        traffic.Grows later ∧ next.client.session.core.crew.queue = [] := by
  obtain ⟨hand, sole⟩ := flows.talks.alone
  obtain ⟨duties, client, attends, -, worked⟩ :=
    Staff.exists_idle ClientSession.staff_lawful sole.workers fun _ => flows.still
  have goes := goesTo_of_client attends
  obtain ⟨later, flows, grows⟩ := flows.goesTo delimiter fits goes
  exact ⟨_, later, goes, flows, grows, worked⟩

/-! ## Nothing under way -/

/-- Where all that was sent went all the way, nothing is under way. -/
theorem Flows.drained
    (flows : exchange.Flows framing serverFraming identity texts traffic)
    (delimiter : framing.delimiter = serverFraming.delimiter)
    (fits : ∀ text ∈ texts, framing.Fits text ∧ serverFraming.Fits text)
    (written : traffic.written = texts)
    (outward : traffic.outward = framing.written traffic.written)
    (replied : traffic.replied = texts)
    (inward : traffic.inward = serverFraming.written traffic.replied)
    (worked : exchange.client.session.core.crew.queue = []) :
    exchange.Drained := by
  obtain ⟨waiting, holds, whole⟩ := flows.talks.waits
  obtain ⟨behind, owed, queue, asks, taken⟩ := flows.echoes.owes
  have nothing : waiting = [] := by
    rw [written] at whole
    exact List.self_eq_append_right.mp whole
  -- What the server's handler was given, or will be, has no more in it than what was sent, and
  -- so nothing in it but what was written back.
  have reaches := flows.reaches delimiter fun text member => (fits text member).2
  rw [Crew.jobs, List.map_append, taken, replied, written, List.append_assoc] at reaches
  have room := reaches.length_le
  simp only [List.length_append, List.length_map] at room
  have answered : behind = [] := List.length_eq_zero_iff.mp (by omega)
  have wanted : owed = [] := List.length_eq_zero_iff.mp (by omega)
  have idle : exchange.server.session.core.crew.queue = [] :=
    List.length_eq_zero_iff.mp (by omega)
  constructor
  · rw [holds.queue, nothing]
    rfl
  · rw [queue.queue, answered]
    rfl
  · exact worked
  · exact idle
  · rw [asks, wanted]
    rfl
  · rw [flows.forwarded, outward, flows.outbound]
  · rw [flows.returned, inward, flows.inbound]

/-- From everywhere the exchange can go on to where nothing is under way. -/
theorem Flows.exists_drained
    (flows : exchange.Flows framing serverFraming identity texts traffic)
    (delimiter : framing.delimiter = serverFraming.delimiter)
    (fits : ∀ text ∈ texts, framing.Fits text ∧ serverFraming.Fits text) :
    ∃ next later,
      exchange.GoesTo next ∧ next.Flows framing serverFraming identity texts later ∧
        next.Drained := by
  obtain ⟨one, first, goes, flows, written⟩ := flows.exists_written delimiter fits
  obtain ⟨two, second, forwards, flows, grows, outward⟩ := flows.exists_forwarded delimiter fits
  have written := eq_of_prefix written grows.written flows.writes
  obtain ⟨three, third, works, flows, more, replied⟩ :=
    flows.exists_replied delimiter fits written outward
  obtain ⟨four, fourth, returns, flows, back, inward⟩ := flows.exists_returned delimiter fits
  obtain ⟨five, fifth, gives, flows, last, worked⟩ := flows.exists_given delimiter fits
  -- What was whole at its stage is whole at the end.
  have onward := more.trans (back.trans last)
  have allWritten := eq_of_prefix written onward.written flows.writes
  have replies := flows.replies delimiter fun text member => (fits text member).2
  have allReplied := eq_of_prefix replied (back.trans last).replied replies
  have backReplied : fourth.replied = texts := by
    apply eq_of_prefix replied back.replied
    exact last.replied.trans replies
  refine
    ⟨five, fifth, goes.trans (forwards.trans (works.trans (returns.trans gives))), flows,
      flows.drained delimiter fits allWritten ?_ allReplied ?_ worked⟩
  · rw [written, ← allWritten] at outward
    exact eq_of_prefix outward onward.outward flows.outward
  · rw [backReplied, ← allReplied] at inward
    exact eq_of_prefix inward last.inward flows.inward

/-- Whatever has happened, the exchange can go on, without anything being sent, until the
client's handler was given all that was sent. -/
theorem echo_completes
    {start exchange : Exchange}
    {events : List Event}
    (joined : start.Joined)
    (fits :
      ∀ text ∈ sent events,
        start.client.session.framing.Fits text ∧ start.server.session.framing.Fits text)
    (ran : start.run? events = some exchange) :
    ∃ more final,
      sent more = [] ∧ start.run? (events ++ more) = some final ∧ final.Drained ∧
        final.client.session.messages = sent events := by
  obtain ⟨identity, traffic, flows⟩ := joined.run fits ran
  obtain ⟨final, later, ⟨more, silent, goes⟩, flows, drained⟩ :=
    flows.exists_drained joined.delimiter fits
  exact
    ⟨more, final, silent, foldlM_append_of_run ran goes, drained,
      flows.whole joined.delimiter fits drained⟩

end Exchange

end LineProtocol
