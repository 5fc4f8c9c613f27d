import LineProtocol.Proofs.Client.Asides
import LineProtocol.Proofs.Serial.Settling
import LineProtocol.Proofs.Server.Asides

/-!
# Who shuts down alone

A session that nobody else uses is shut down from start to end: the first job and
all that waits before it run, each close is waited for, and the last job runs.
That is one order of turns of one caller, so whatever holds of all turns in any
order holds of it.
-/

namespace LineProtocol

namespace Closedown

variable {σ core job ρ κ action : Type}

section

variable (closedown : Closedown σ core job ρ κ action)

/-- Turns lead from some callers to others. -/
def Leads (callers next : Callers σ κ) : Prop :=
  ∃ turns, closedown.run? callers turns = some next

/-- A shutdown from start to end. -/
def alone (session : σ) : σ :=
  if (closedown.context session).stopped then session
  else
    match (closedown.context session).call closedown.craft closedown.first with
    | (.error _, context) => closedown.withContext session context
    | (.ok value, context) =>
        let waited :=
          (closedown.closings value).foldl closedown.await
            (closedown.withContext session context)
        closedown.withContext waited
          ((closedown.context waited).finish closedown.craft closedown.last).2

end

variable
  {closedown : Closedown σ core job ρ κ action}
  {callers next : Callers σ κ}

theorem Leads.refl (callers : Callers σ κ) : closedown.Leads callers callers :=
  ⟨[], rfl⟩

theorem Leads.trans
    {third : Callers σ κ}
    (one : closedown.Leads callers next)
    (two : closedown.Leads next third) :
    closedown.Leads callers third := by
  obtain ⟨early, before⟩ := one
  obtain ⟨late, after⟩ := two
  refine ⟨early ++ late, ?_⟩
  rw [run?, List.foldlM_append, show early.foldlM closedown.step? callers = some next from before]
  exact after

theorem leads_of_step?
    {turn : Turn action}
    (stepped : closedown.step? callers turn = some next) :
    closedown.Leads callers next :=
  ⟨[turn], by simpa [run?] using stepped⟩

/-! ## Running all that waits -/

/-- What a caller comes to who hears answers one after the other. -/
def heardAll
    (closedown : Closedown σ core job ρ κ action)
    (answers : List (Option ρ))
    (phase : CallerPhase κ) :
    CallerPhase κ :=
  answers.foldl (fun phase answer => closedown.heard (some answer) phase) phase

theorem heardAll_waiting
    (answers : List (Option ρ))
    (closings : List κ) :
    closedown.heardAll answers (.waiting closings) = .waiting closings := by
  induction answers with
  | nil => rfl
  | cons answer answers ih => cases answer <;> exact ih

theorem heardAll_ending (answers : List (Option ρ)) :
    closedown.heardAll answers .ending = .ending := by
  induction answers with
  | nil => rfl
  | cons answer answers ih => cases answer <;> exact ih

/-- Whoever handed the first job in is told of the closes by its answer. -/
theorem heardAll_begun
    {answers : List (Option ρ)}
    {place : Nat}
    {value : ρ}
    (here : answers[place]? = some (some value)) :
    closedown.heardAll answers (.begun place) = .waiting (closedown.closings value) := by
  induction answers generalizing place with
  | nil => simp at here
  | cons answer answers ih =>
      cases place with
      | zero =>
          obtain rfl : answer = some value := by simpa using here
          exact heardAll_waiting answers _
      | succ place =>
          have later : answers[place]? = some (some value) := by simpa using here
          cases answer <;> exact ih later

theorem leads_runFor
    (lawful : closedown.Lawful)
    (count : Nat)
    (callers : Callers σ κ) :
    let ran := Serial.runFor closedown.craft count (closedown.context callers.session)
    closedown.Leads callers
      { callers with
        session := closedown.withContext callers.session ran.2
        phases := fun caller => closedown.heardAll ran.1 (callers.phases caller) } := by
  induction count generalizing callers with
  | zero =>
      simp only [Serial.runFor, lawful.withContext_context]
      exact .refl callers
  | succ count ih =>
      have served : closedown.Leads callers (closedown.serve callers) := ⟨[.serve], rfl⟩
      have context := context_serve lawful callers
      cases first : (closedown.context callers.session).next? with
      | some task =>
          obtain ⟨rest, -, answer, -⟩ := Serial.runNext_of_next? closedown.craft first
          have later := served.trans (ih (closedown.serve callers))
          rw [context] at later
          simp only [phases_serve, answer] at later
          rw [Serial.runFor_succ_of_next? closedown.craft count first]
          simp only [serve, lawful.withContext_withContext] at later
          exact later
      | none =>
          obtain ⟨answer, -⟩ := Serial.runNext_of_idle closedown.craft first
          rw [Serial.runFor_succ_of_idle closedown.craft count first]
          simp only [serve, answer, heard_none] at served
          exact served

/-! ## The phases of one caller -/

/-- Every close is waited for, one after the other. -/
theorem leads_wait
    {caller : Nat}
    {closings : List κ}
    (waits : callers.phases caller = .waiting closings) :
    closedown.Leads callers
      { callers with
        session := closings.foldl closedown.await callers.session
        phases := Function.update callers.phases caller (.waiting []) } := by
  induction closings generalizing callers with
  | nil =>
      rw [← waits, Function.update_eq_self]
      exact .refl callers
  | cons closing closings ih =>
      let after : Callers σ κ :=
        { callers with
          session := closedown.await callers.session closing
          phases := Function.update callers.phases caller (.waiting closings) }
      have waited : closedown.step? callers (.wait caller) = some after := by
        simp only [step?, waits, after]
      have later : closedown.Leads after _ := ih (Function.update_self ..)
      simp only [after, Function.update_idem] at later
      exact (leads_of_step? waited).trans later

theorem context_foldl_await
    (lawful : closedown.Lawful)
    (closings : List κ)
    (session : σ) :
    closedown.context (closings.foldl closedown.await session) = closedown.context session := by
  induction closings generalizing session with
  | nil => rfl
  | cons closing closings ih => exact (ih _).trans (lawful.context_await session closing)

/-- A context that is not stopped runs all that waits and then the first job. -/
theorem call_first
    (lawful : closedown.Lawful)
    {context : Serial core job}
    (stage : Serial.Stage closedown.last context)
    (stopped : context.stopped = false) :
    ∃ waiting value,
      context.submit closedown.first = (.ok (), waiting) ∧
        (waiting.settle closedown.craft).1[context.queue.length]? = some (some value) ∧
        context.call closedown.craft closedown.first =
          (.ok value, (waiting.settle closedown.craft).2) ∧
        Serial.Stage closedown.last (waiting.settle closedown.craft).2 ∧
        (waiting.settle closedown.craft).2.stopped = false := by
  cases stage with
  | finishing shut => exact nomatch stopped.symm.trans shut
  | stopping shut => exact nomatch stopped.symm.trans shut
  | finished shut => exact nomatch stopped.symm.trans shut
  | taking open_ running jobs queue others =>
      let waiting : Serial core job :=
        { context with queue := context.queue ++ [.run closedown.first] }
      have submitted : context.submit closedown.first = (.ok (), waiting) := by
        simp [Serial.submit, Serial.enqueue, stopped, running, waiting]
      have queued : waiting.queue = (jobs ++ [closedown.first]).map .run := by
        simp [waiting, queue]
      have going : waiting.ended = false := running
      have stage : Serial.Stage closedown.last waiting := by
        refine .taking stopped going (jobs ++ [closedown.first]) queued ?_
        simp only [List.mem_append, List.mem_singleton, not_or]
        exact ⟨others, lawful.distinct.symm⟩
      have settled : Serial.Stage closedown.last (waiting.settle closedown.craft).2 :=
        stage.runFor lawful.taken _
      have open_ : (waiting.settle closedown.craft).2.stopped = false :=
        (Serial.stopped_runFor closedown.craft _ waiting).trans stopped
      have inside : context.queue.length < (jobs ++ [closedown.first]).length := by
        simp [queue]
      obtain ⟨value, here⟩ :=
        Serial.exists_answer lawful.answers going
          (queued.trans (List.append_nil _).symm) inside
      refine ⟨waiting, value, submitted, here, ?_, settled, open_⟩
      simp only [Serial.call, submitted]
      exact Serial.answerAt_of_getElem? here

/-- The last job of a context that is not stopped runs, and the loop ends. -/
theorem finish_last
    (lawful : closedown.Lawful)
    {context : Serial core job}
    (stage : Serial.Stage closedown.last context)
    (stopped : context.stopped = false) :
    ∃ waiting,
      context.handLast closedown.last = (.ok (), waiting) ∧
        (context.finish closedown.craft closedown.last).2 =
          (waiting.settle closedown.craft).2 ∧
        (waiting.settle closedown.craft).2.ended = true := by
  rcases stage.handLast with ⟨waiting, handed, -, last, shut, -⟩ | ⟨shut, -⟩
  · refine ⟨waiting, handed, ?_, ?_⟩
    · rw [Serial.finish_eq, handed]
      exact Serial.answerAt_snd _ _ _
    · apply (last.runFor lawful.taken _).ended_of_idle
      · exact Serial.idle_runFor (Nat.lt_succ_self _)
      · exact (Serial.stopped_runFor closedown.craft _ waiting).trans shut
  · exact nomatch stopped.symm.trans shut

/-- The first phase: a caller hands the first job in and is told of the closes. -/
theorem leads_begin
    (lawful : closedown.Lawful)
    {session : σ}
    {waiting : Serial core job}
    {value : ρ}
    (submitted :
      (closedown.context session).submit closedown.first = (.ok (), waiting))
    (here :
      (waiting.settle closedown.craft).1[(closedown.context session).queue.length]? =
        some (some value)) :
    ∃ next,
      closedown.Leads { session } next ∧
        next.session = closedown.withContext session (waiting.settle closedown.craft).2 ∧
        next.holder = none ∧ next.phases 0 = .waiting (closedown.closings value) := by
  let begun : Callers σ κ :=
    { session := closedown.withContext session waiting
      phases :=
        Function.update (fun _ => .idle) 0
          (.begun (closedown.context session).queue.length) }
  have called : closedown.Leads { session } begun := by
    refine ⟨[.call 0], ?_⟩
    simp [run?, step?, call, submitted, begun]
  have context : closedown.context begun.session = waiting :=
    lawful.context_withContext session waiting
  have served := leads_runFor lawful (waiting.load closedown.craft + 1) begun
  rw [context] at served
  refine ⟨_, called.trans served, ?_, rfl, ?_⟩
  · exact lawful.withContext_withContext session waiting _
  · simp only [begun, Function.update_self]
    exact heardAll_begun here

/-- The last phase: a caller hands the last job in and returns when the context
has ended. -/
theorem leads_finish
    (lawful : closedown.Lawful)
    {caller : Nat}
    (stage : Serial.Stage closedown.last (closedown.context callers.session))
    (stopped : (closedown.context callers.session).stopped = false)
    (done : callers.phases caller = .waiting [])
    (free : callers.holder = none) :
    ∃ final,
      closedown.Leads callers final ∧
        final.session =
          closedown.withContext callers.session
            ((closedown.context callers.session).finish closedown.craft closedown.last).2 ∧
        final.phases caller = .returned := by
  obtain ⟨waiting, handed, whole, ended⟩ := finish_last lawful stage stopped
  let ending : Callers σ κ :=
    { session := closedown.withContext callers.session waiting
      phases := Function.update callers.phases caller .ending
      holder := some caller }
  have finished : closedown.Leads callers ending := by
    refine ⟨[.finish caller], ?_⟩
    simp [run?, step?, done, free, finish, handed, ending]
  have context : closedown.context ending.session = waiting :=
    lawful.context_withContext callers.session waiting
  have served := leads_runFor lawful (waiting.load closedown.craft + 1) ending
  rw [context] at served
  let after : Callers σ κ :=
    { ending with
      session := closedown.withContext ending.session (waiting.settle closedown.craft).2
      phases := fun other =>
        closedown.heardAll (waiting.settle closedown.craft).1 (ending.phases other) }
  have phase : after.phases caller = .ending := by
    simp only [after, ending, Function.update_self]
    exact heardAll_ending _
  have gone : (closedown.context after.session).ended = true := by
    simp only [after, lawful.context_withContext]
    exact ended
  have left : closedown.step? after (.leave caller) =
      some { after with
        phases := Function.update after.phases caller .returned
        holder := none } := by
    simp only [step?, phase, gone, if_true]
  refine ⟨_, (finished.trans served).trans (leads_of_step? left), ?_, ?_⟩
  · rw [whole]
    exact lawful.withContext_withContext callers.session waiting _
  · exact Function.update_self ..

/-- A shutdown from start to end is one order of one caller's turns. -/
theorem leads_alone
    (lawful : closedown.Lawful)
    {session : σ}
    (sound : closedown.Sound { session }) :
    ∃ final,
      closedown.Leads { session } final ∧ final.session = closedown.alone session ∧
        final.phases 0 = .returned := by
  cases stopped : (closedown.context session).stopped with
  | true =>
      let final : Callers σ κ :=
        { session, phases := Function.update (fun _ => .idle) 0 .returned }
      refine ⟨final, ⟨[.call 0, .leave 0], ?_⟩, ?_, ?_⟩
      · simp [run?, step?, call, Serial.submit, stopped, final]
      · simp [alone, stopped, final]
      · simp [final]
  | false =>
      have here : Serial.Stage closedown.last (closedown.context session) := sound.stage
      obtain ⟨waiting, value, submitted, answered, called, stage, open_⟩ :=
        call_first lawful here stopped
      obtain ⟨begun, first, served, holder, phase⟩ := leads_begin lawful submitted answered
      let waited : Callers σ κ :=
        { begun with
          session := (closedown.closings value).foldl closedown.await begun.session
          phases := Function.update begun.phases 0 (.waiting []) }
      have waits : closedown.Leads begun waited := leads_wait phase
      have context : closedown.context waited.session =
          (waiting.settle closedown.craft).2 := by
        simp only [waited]
        rw [context_foldl_await lawful, served, lawful.context_withContext]
      rw [← context] at stage open_
      obtain ⟨final, last, ends, returned⟩ :=
        leads_finish lawful stage open_ (Function.update_self ..) holder
      refine ⟨final, (first.trans waits).trans last, ?_, returned⟩
      rw [ends, alone, if_neg (by simp [stopped]), called]
      simp only [waited, served]

end Closedown

namespace ClientSession

theorem finishShutdown_eq (session : ClientSession) :
    session.finishShutdown =
      (.ok (),
        { session with context := (session.context.finish ClientJob.craft .finish).2 }) := by
  rcases finished : session.context.finish ClientJob.craft .finish with ⟨outcome, context⟩
  cases outcome with
  | ok value => simp only [finishShutdown, finished]
  | error cause =>
      obtain rfl := Serial.finish_error finished
      simp only [finishShutdown, finished]

/-- A client's shutdown succeeds, and it is all phases one after the other. -/
theorem shutdown_eq_alone (session : ClientSession) :
    session.shutdown = (.ok (), closedown.alone session) := by
  cases stopped : session.context.stopped with
  | true => simp [shutdown, Closedown.alone, closedown, stopped]
  | false =>
      rcases called : session.context.call ClientJob.craft .disconnect with
        ⟨outcome, context⟩
      cases outcome with
      | error cause =>
          obtain rfl := Serial.call_error called
          simp [shutdown, Closedown.alone, closedown, stopped, beginShutdown, called]
      | ok ticket =>
          cases ticket with
          | none =>
              simp [shutdown, Closedown.alone, closedown, stopped, beginShutdown, called,
                finishShutdown_eq]
          | some ticket =>
              simp [shutdown, Closedown.alone, closedown, stopped, beginShutdown, called,
                finishShutdown_eq]

/-- A client's shutdown is one run, so what holds of all runs holds of it. -/
theorem shutdown_leads
    {session : ClientSession}
    (sound : closedown.Sound { session }) :
    ∃ turns final,
      closedown.run? { session } turns = some final ∧
        session.shutdown = (.ok (), final.session) ∧ final.phases 0 = .returned := by
  obtain ⟨final, ⟨turns, ran⟩, whole, returned⟩ :=
    Closedown.leads_alone closedown_lawful sound
  exact ⟨turns, final, ran, by rw [shutdown_eq_alone, whole], returned⟩

end ClientSession

namespace ServerSession

theorem finishShutdown_eq (session : ServerSession) :
    session.finishShutdown =
      (.ok (),
        { session with
          context := (session.context.finish ServerJob.craft .finishShutdown).2 }) := by
  rcases finished : session.context.finish ServerJob.craft .finishShutdown with
    ⟨outcome, context⟩
  cases outcome with
  | ok value => simp only [finishShutdown, finished]
  | error cause =>
      obtain rfl := Serial.finish_error finished
      simp only [finishShutdown, finished]

/-- A server's shutdown succeeds, and it is all phases one after the other. -/
theorem shutdown_eq_alone (session : ServerSession) :
    session.shutdown = (.ok (), closedown.alone session) := by
  cases stopped : session.context.stopped with
  | true => simp [shutdown, Closedown.alone, closedown, stopped]
  | false =>
      rcases called : session.context.call ServerJob.craft .beginShutdown with
        ⟨outcome, context⟩
      cases outcome with
      | error cause =>
          obtain rfl := Serial.call_error called
          simp [shutdown, Closedown.alone, closedown, stopped, beginShutdown, called]
      | ok closings =>
          simp [shutdown, Closedown.alone, closedown, stopped, beginShutdown, called,
            finishShutdown_eq]

/-- A server's shutdown is one run, so what holds of all runs holds of it. -/
theorem shutdown_leads
    {session : ServerSession}
    (sound : closedown.Sound { session }) :
    ∃ turns final,
      closedown.run? { session } turns = some final ∧
        session.shutdown = (.ok (), final.session) ∧ final.phases 0 = .returned := by
  obtain ⟨final, ⟨turns, ran⟩, whole, returned⟩ :=
    Closedown.leads_alone closedown_lawful sound
  exact ⟨turns, final, ran, by rw [shutdown_eq_alone, whole], returned⟩

end ServerSession

end LineProtocol
