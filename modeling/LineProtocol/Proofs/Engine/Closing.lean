import LineProtocol.Proofs.Engine.Protocol

/-!
# Requests to close

Once a worker has dealt with a request to close a connection, nothing is
established or read on it, except where the request is `Overtaken`: it comes to the
worker before the command that brings the connection, so that the worker
finds nothing to close, and adopts the connection later.

After a request was dealt with, the connection is `Shut`, and an act that takes
nothing on keeps it so.
-/

namespace LineProtocol

/-- Whether the connection is in use when this is told. -/
def Callback.isUse : Callback → Bool
  | .established => true
  | .read _ => true
  | _ => false

namespace Worker

open View (unborn)

variable
  {worker : Worker}
  {acts : List Act}
  {act : Act}
  {id : ChannelId}

/-- The commands that are dealt with in turns, in order. -/
def dealing (turns : List (Worker × Surroundings)) : List Command :=
  turns.flatMap (·.1.deals)

/-- A request to close the connection was dealt with. -/
def CloseDealt
    (turns : List (Worker × Surroundings))
    (id : ChannelId) :
    Prop :=
  ∃ ticket, .close id ticket ∈ dealing turns

/-- A connection is taken on in a turn. -/
def TakesOn
    (turn : Worker × Surroundings)
    (id : ChannelId) :
    Prop :=
  turn.1.takes? = some (.adopt id) ∧ turn.2.registration = .ok ()

/-- A request to close the connection was dealt with before the connection was taken
on. -/
def Overtaken
    (turns : List (Worker × Surroundings))
    (id : ChannelId) :
    Prop :=
  ∃ earlier turn later,
    turns = earlier ++ turn :: later ∧ CloseDealt earlier id ∧ TakesOn turn id

/-! ## Commands on their way -/

/-- The commands that were sent in a history. -/
def sending (acts : List Act) : List Command :=
  acts.filterMap (·.command?)

theorem sending_snoc
    (acts : List Act)
    (act : Act) :
    sending (acts ++ [act]) = sending acts ++ act.command?.toList := by
  rw [sending, List.filterMap_append]
  cases command : act.command? with
  | none => simp [sending, command]
  | some sent => simp [sending, command]

theorem dealing_append (earlier later : List (Worker × Surroundings)) :
    dealing (earlier ++ later) = dealing earlier ++ dealing later :=
  List.flatMap_append

theorem dealing_turns_single
    (worker : Worker)
    (act : Act) :
    dealing (worker.turns [act]) = worker.dealt act := by
  cases act with
  | advance surroundings => exact List.append_nil _
  | _ => rfl

theorem dealing_turns_snoc
    (worker : Worker)
    (acts : List Act)
    (act : Act) :
    dealing (worker.turns (acts ++ [act])) =
      dealing (worker.turns acts) ++ (worker.after acts).dealt act := by
  rw [turns_append, dealing_append, dealing_turns_single]

/-- What a worker has dealt with, what waits for it and what it has of it are commands
that were sent. -/
structure Traced
    (start : Worker)
    (acts : List Act) : Prop where
  sent :
    (dealing (start.turns acts) ++ (start.after acts).queue).Sublist (sending acts)
  listeners : ∀ id ∈ (start.after acts).listeners, .listen id ∈ dealing (start.turns acts)
  settled :
    ∀ entry ∈ (start.after acts).settled,
      ∃ id, .close id entry.1 ∈ dealing (start.turns acts)

theorem after_snoc
    (worker : Worker)
    (acts : List Act)
    (act : Act) :
    worker.after (acts ++ [act]) = (worker.after acts).step act :=
  after_append worker acts [act]

theorem traced_after
    (limit : Nat)
    (acts : List Act) :
    Traced { limit } acts := by
  induction acts using List.reverseRecOn with
  | nil => exact ⟨List.nil_sublist _, fun _ => nofun, fun _ => nofun⟩
  | append_singleton acts act ih =>
      have leaves := leaves_step (({ limit } : Worker).after acts) act
      refine ⟨?_, fun id there => ?_, fun entry there => ?_⟩
      · rw [dealing_turns_snoc, after_snoc, List.append_assoc, ← queue_step,
          ← List.append_assoc, sending_snoc]
        refine ih.sent.append ?_
        rw [received]
        split
        · exact List.nil_sublist _
        · exact List.Sublist.refl _
      · rw [dealing_turns_snoc]
        rw [after_snoc] at there
        rcases leaves.listeners id there with earlier | listens
        · exact List.mem_append_left _ (ih.listeners id earlier)
        · exact List.mem_append_right _ listens
      · rw [dealing_turns_snoc]
        rw [after_snoc] at there
        rcases leaves.settled entry there with earlier | ⟨id, closes⟩
        · obtain ⟨id, closes⟩ := ih.settled entry earlier
          exact ⟨id, List.mem_append_left _ closes⟩
        · exact ⟨id, List.mem_append_right _ closes⟩

/-- No command to connect is sent behind a request to close. -/
def Prompt
    (commands : List Command)
    (id : ChannelId) :
    Prop :=
  ∀ ticket, ¬ [.close id ticket, .connect id].Sublist commands

/-! ## Shut connections -/

/-- The handler was told the last, or the connection was not brought and will not be
connected. -/
def Shut
    (worker : Worker)
    (id : ChannelId) :
    Prop :=
  (worker.view id).Ended ∨ (worker.view id = unborn ∧ .connect id ∉ worker.queue)

/-- Whoever was told the last is told nothing more. -/
theorem eq_of_ended
    (standing : Standing acts worker)
    (new : ∀ id, act.opens? = some id → id ∉ bringing acts)
    (ended : (worker.view id).Ended)
    {after : View}
    (changes : Changes worker id act after) :
    after = worker.view id := by
  have gone := (standing.lively id).gone_of_ended ended
  have born : worker.view id ≠ unborn := by
    intro fresh
    obtain ⟨callback, there, -⟩ := ended
    rw [fresh] at there
    cases there
  cases changes with
  | goes goes => exact goes.eq_of_gone gone
  | connects takes =>
      exact absurd (standing.unborn_of_due new (Standing.due_of_takes? takes rfl)) born
  | refused reason there => exact absurd (standing.unborn_of_refused new there) born
  | adopted takes registered =>
      exact absurd (standing.unborn_of_due new (Standing.due_of_takes? takes rfl)) born
  | lost reason takes registered =>
      exact absurd (standing.unborn_of_due new (Standing.due_of_takes? takes rfl)) born
  | resumed takes paused goes => cases paused.symm.trans gone

/-- A shut connection stays shut and is told of no use, unless it is taken on. -/
theorem shut_step
    (standing : Standing acts worker)
    (new : ∀ id, act.opens? = some id → id ∉ bringing acts)
    (shut : worker.Shut id)
    (asked : act.command? ≠ some (.connect id)) :
    (∃ surroundings, act = .advance surroundings ∧ TakesOn (worker, surroundings) id) ∨
      ((worker.step act).Shut id ∧
        ∃ more,
          (worker.step act).told id = worker.told id ++ more ∧
            ∀ callback ∈ more, callback.isUse = false) := by
  have changes := changes_step worker act id
  rcases shut with ended | ⟨fresh, waits⟩
  · have same := eq_of_ended standing new ended changes
    have told : (worker.step act).told id = worker.told id := congrArg View.told same
    refine .inr ⟨.inl (same ▸ ended), [], ?_, fun _ => nofun⟩
    rw [told, List.append_nil]
  · have silent : worker.told id = [] := congrArg View.told fresh
    have due : .connect id ∉ worker.queue ++ worker.received act := by
      intro there
      rcases List.mem_append.mp there with earlier | joins
      · exact waits earlier
      · rw [received] at joins
        split at joins
        · cases joins
        · exact asked (Option.mem_toList.mp joins)
    rw [queue_step] at due
    have behind : .connect id ∉ (worker.step act).queue := fun there =>
      due (List.mem_append_right _ there)
    generalize seen : (worker.step act).view id = after at changes
    have told : (worker.step act).told id = after.told := congrArg View.told seen
    rw [Shut, seen, told, silent]
    cases changes with
    | goes goes =>
        rw [fresh] at goes
        rw [goes.eq_of_gone rfl]
        exact .inr ⟨.inr ⟨rfl, behind⟩, [], rfl, fun _ => nofun⟩
    | connects takes =>
        exact absurd (List.mem_append_left _ (mem_deals_of_takes? takes)) due
    | refused reason there =>
        rw [fresh, silent]
        exact .inr ⟨.inl ⟨.connectFailed reason, List.mem_singleton_self _, rfl⟩,
          [.connectFailed reason], rfl, by simp [Callback.isUse]⟩
    | adopted takes registered => exact .inl ⟨_, rfl, takes, registered⟩
    | lost reason takes registered =>
        rw [silent]
        exact .inr ⟨.inl ⟨.closed, by simp, rfl⟩, [.errored reason, .closed], rfl,
          by simp [Callback.isUse]⟩
    | resumed takes paused goes =>
        rw [fresh] at paused
        cases paused

/-! ## Requests that are dealt with -/

/-- A connection that a worker was told to close is not looked after any more. -/
theorem gone_of_close
    (standing : Standing acts worker)
    {ticket : Ticket}
    (closes : .close id ticket ∈ worker.deals)
    (listens : id ∉ worker.listeners)
    (surroundings : Surroundings) :
    ((worker.step (.advance surroundings)).view id).phase? = none := by
  have stopped : worker.Stopped →
      ((worker.step (.advance surroundings)).view id).phase? = none := fun stopped =>
    Standing.gone_of_stopped (changes_step worker _ id) stopped (standing.stopped stopped id)
  rw [deals] at closes
  cases stage : worker.stage with
  | running =>
      rw [stage] at closes
      cases queue : worker.queue with
      | nil => simp [queue] at closes
      | cons command rest =>
          obtain rfl : .close id ticket = command := by simpa [queue] using closes
          simp only [step, advance, stage, queue, perform, close]
          rw [if_neg (by simpa using listens)]
          cases there : worker.slots.find? id with
          | none => simp [view, settle, there]
          | some slot => exact gone_closeSlot _ surroundings.farewell id
  | closing =>
      rw [stage] at closes
      cases closes
  | draining => exact stopped (.inl stage)
  | drained => exact stopped (.inr (.inl stage))
  | ended =>
      rw [stage] at closes
      cases closes

/-- A history that brings connections once, sends no connect behind a request to close the
connection, and does not take the connection for a listener. -/
structure Fair
    (acts : List Act)
    (id : ChannelId) : Prop where
  distinct : (bringing acts).Nodup
  prompt : Prompt (sending acts) id
  listens : .listen id ∉ sending acts

theorem Fair.earlier
    {later : List Act}
    (fair : Fair (acts ++ later) id) :
    Fair acts id := by
  obtain ⟨distinct, prompt, listens⟩ := fair
  rw [bringing, List.filterMap_append] at distinct
  rw [sending, List.filterMap_append] at prompt listens
  exact ⟨(List.nodup_append.mp distinct).1,
    fun ticket order => prompt ticket (order.trans (List.sublist_append_left _ _)),
    fun there => listens (List.mem_append_left _ there)⟩

theorem Fair.new
    (fair : Fair (acts ++ [act]) id) :
    ∀ id, act.opens? = some id → id ∉ bringing acts := by
  intro other opens known
  have distinct := fair.distinct
  rw [bringing_snoc, List.nodup_append] at distinct
  exact distinct.2.2 other known other (Option.mem_toList.mpr opens) rfl

/-- Behind a request to close no connect is dealt with, and none waits. -/
theorem Fair.connect_notMem
    (fair : Fair acts id)
    (limit : Nat)
    {earlier later : List Command}
    (split :
      dealing (({ limit } : Worker).turns acts) ++ (({ limit } : Worker).after acts).queue =
        earlier ++ later)
    {ticket : Ticket}
    (closes : .close id ticket ∈ earlier) :
    .connect id ∉ later := by
  intro there
  have order : [.close id ticket, .connect id].Sublist (earlier ++ later) :=
    (List.singleton_sublist.mpr closes).append (List.singleton_sublist.mpr there)
  rw [← split] at order
  exact fair.prompt ticket (order.trans (traced_after limit acts).sent)

theorem overtaken_append
    {turns more : List (Worker × Surroundings)}
    (overtaken : Overtaken turns id) :
    Overtaken (turns ++ more) id := by
  obtain ⟨earlier, turn, later, rfl, dealt, takes⟩ := overtaken
  exact ⟨earlier, turn, later ++ more, by simp, dealt, takes⟩

/-- An act behind a request to close that was dealt with. -/
theorem shut_snoc
    {limit : Nat}
    (fair : Fair (acts ++ [act]) id)
    (dealt : CloseDealt (({ limit } : Worker).turns acts) id)
    (shut : (({ limit } : Worker).after acts).Shut id) :
    Overtaken (({ limit } : Worker).turns (acts ++ [act])) id ∨
      ((({ limit } : Worker).after (acts ++ [act])).Shut id ∧
        ∃ more,
          (({ limit } : Worker).after (acts ++ [act])).told id =
              (({ limit } : Worker).after acts).told id ++ more ∧
            ∀ callback ∈ more, callback.isUse = false) := by
  have standing := standing_after limit acts fair.earlier.distinct
  obtain ⟨ticket, closes⟩ := dealt
  have asked : act.command? ≠ some (.connect id) := by
    intro connects
    have sent : .close id ticket ∈ sending acts :=
      (traced_after limit acts).sent.subset (List.mem_append_left _ closes)
    refine fair.prompt ticket ?_
    rw [sending_snoc, connects]
    exact (List.singleton_sublist.mpr sent).append (List.Sublist.refl _)
  rw [after_snoc]
  rcases shut_step standing fair.new shut asked with ⟨surroundings, rfl, takes⟩ | stays
  · refine .inl ⟨_, (_, surroundings), [], ?_, ⟨ticket, closes⟩, takes⟩
    rw [turns_append]
    rfl
  · exact .inr stays

/-- Once a request to close was dealt with the connection is shut, or the request was
overtaken. -/
theorem shut_of_dealt
    (limit : Nat)
    (acts : List Act)
    (fair : Fair acts id)
    (dealt : CloseDealt (({ limit } : Worker).turns acts) id) :
    Overtaken (({ limit } : Worker).turns acts) id ∨
      (({ limit } : Worker).after acts).Shut id := by
  induction acts using List.reverseRecOn with
  | nil =>
      obtain ⟨ticket, closes⟩ := dealt
      cases closes
  | append_singleton acts act ih =>
      by_cases before : CloseDealt (({ limit } : Worker).turns acts) id
      · rcases ih fair.earlier before with overtaken | shut
        · rw [turns_append]
          exact .inl (overtaken_append overtaken)
        · rcases shut_snoc fair before shut with overtaken | ⟨stays, -⟩
          · exact .inl overtaken
          · exact .inr stays
      · obtain ⟨ticket, closes⟩ := dealt
        rw [dealing_turns_snoc] at closes
        have now : .close id ticket ∈ (({ limit } : Worker).after acts).dealt act := by
          rcases List.mem_append.mp closes with earlier | now
          · exact absurd ⟨ticket, earlier⟩ before
          · exact now
        cases act with
        | advance surroundings =>
            have standing := standing_after limit acts fair.earlier.distinct
            have after := standing_after limit _ fair.distinct
            have traced := traced_after limit acts
            have listens : id ∉ (({ limit } : Worker).after acts).listeners := fun there =>
              fair.earlier.listens
                (traced.sent.subset (List.mem_append_left _ (traced.listeners id there)))
            have gone := gone_of_close standing now listens surroundings
            rw [← after_snoc] at gone
            rcases (after.lively id).unborn_or_ended gone with fresh | ended
            · have behind := fair.connect_notMem limit rfl (dealing_turns_snoc _ _ _ ▸ closes)
              exact .inr (.inr ⟨fresh, behind⟩)
            · exact .inr (.inl ended)
        | _ => cases now

/-- Behind a request to close that was dealt with nothing is established or read, or the
request was overtaken. -/
theorem quiet_of_dealt
    (limit : Nat)
    (earlier later : List Act)
    (fair : Fair (earlier ++ later) id)
    (dealt : CloseDealt (({ limit } : Worker).turns earlier) id) :
    Overtaken (({ limit } : Worker).turns (earlier ++ later)) id ∨
      ∃ more,
        (({ limit } : Worker).after (earlier ++ later)).told id =
            (({ limit } : Worker).after earlier).told id ++ more ∧
          ∀ callback ∈ more, callback.isUse = false := by
  induction later using List.reverseRecOn with
  | nil => exact .inr ⟨[], by simp, fun _ => nofun⟩
  | append_singleton later act ih =>
      rw [← List.append_assoc] at fair ⊢
      have closed : CloseDealt (({ limit } : Worker).turns (earlier ++ later)) id := by
        obtain ⟨ticket, closes⟩ := dealt
        refine ⟨ticket, ?_⟩
        rw [turns_append, dealing_append]
        exact List.mem_append_left _ closes
      rcases ih fair.earlier with overtaken | ⟨more, told, quiet⟩
      · rw [turns_append]
        exact .inl (overtaken_append overtaken)
      · rcases shut_of_dealt limit _ fair.earlier closed with overtaken | shut
        · rw [turns_append]
          exact .inl (overtaken_append overtaken)
        · rcases shut_snoc fair closed shut with overtaken | ⟨-, last, said, silent⟩
          · exact .inl overtaken
          · refine .inr ⟨more ++ last, ?_, fun callback there => ?_⟩
            · rw [said, told, List.append_assoc]
            · rcases List.mem_append.mp there with before | now
              · exact quiet callback before
              · exact silent callback now

/-! ## Workers that have ended -/

theorem stage_step_of_ended
    (ended : worker.stage = .ended)
    (act : Act) :
    (worker.step act).stage = .ended := by
  by_cases own : ∃ surroundings, act = .advance surroundings
  · obtain ⟨surroundings, rfl⟩ := own
    simp [step, advance, ended]
  · rcases stage_step_of_not_advance worker fun surroundings same => own ⟨surroundings, same⟩
      with same | ⟨running, -⟩
    · exact same.trans ended
    · cases running.symm.trans ended

/-- An ended worker establishes and reads nothing. -/
theorem quiet_of_ended
    (limit : Nat)
    (earlier later : List Act)
    (distinct : (bringing (earlier ++ later)).Nodup)
    (ended : (({ limit } : Worker).after earlier).stage = .ended) :
    (({ limit } : Worker).after (earlier ++ later)).stage = .ended ∧
      ∃ more,
        (({ limit } : Worker).after (earlier ++ later)).told id =
            (({ limit } : Worker).after earlier).told id ++ more ∧
          ∀ callback ∈ more, callback.isUse = false := by
  induction later using List.reverseRecOn with
  | nil => exact ⟨by simpa using ended, [], by simp, fun _ => nofun⟩
  | append_singleton later act ih =>
      rw [← List.append_assoc, bringing_snoc] at distinct
      have sooner := (List.nodup_append.mp distinct).1
      obtain ⟨still, more, told, quiet⟩ := ih sooner
      have gone := (standing_after limit _ sooner).stopped (.inr (.inr still)) id
      rw [← List.append_assoc, after_snoc]
      refine ⟨stage_step_of_ended still act, ?_⟩
      have changes := changes_step (({ limit } : Worker).after (earlier ++ later)) act id
      have nothing : (({ limit } : Worker).after (earlier ++ later)).takes? = none := by
        rw [takes?, still]
        rfl
      generalize seen : ((({ limit } : Worker).after (earlier ++ later)).step act).view id =
        after at changes
      have said : ((({ limit } : Worker).after (earlier ++ later)).step act).told id =
        after.told := congrArg View.told seen
      rw [said]
      cases changes with
      | goes goes => exact ⟨more, (congrArg View.told (goes.eq_of_gone gone)).trans told, quiet⟩
      | connects takes => cases nothing.symm.trans takes
      | refused reason there =>
          refine ⟨more ++ [.connectFailed reason], ?_, fun callback listed => ?_⟩
          · rw [told, List.append_assoc]
          · rcases List.mem_append.mp listed with before | now
            · exact quiet callback before
            · rw [List.mem_singleton.mp now]
              rfl
      | adopted takes registered => cases nothing.symm.trans takes
      | lost reason takes registered => cases nothing.symm.trans takes
      | resumed takes paused goes => cases nothing.symm.trans takes

end Worker

end LineProtocol
