import LineProtocol.Proofs.Run
import LineProtocol.Serial.Shared

/-!
# Jobs that come too late

Whoever hands a job in looks first whether jobs are still taken.  If the context is stopped
between that look and the moment when the job comes into the queue, the job is behind the
last one.  Then it is either run after the last job, or the loop is over before it is run,
although handing it in was answered with success.

Whatever the threads do, jobs are begun in the order in which they came into the queue, each
at most once.  `orderly_iff` says that a context keeps the rest of its word, nothing behind
the last job and nothing left over, exactly when no job came too late; and jobs come too late
only from a thread, or from a job on the loop, whose look was overtaken.
-/

namespace LineProtocol.SharedSerial

variable
  {σ ρ : Type}
  {shared next final : SharedSerial σ ρ}
  {entry : Entry (Task σ ρ)}
  {holder : Holder (Task σ ρ)}
  {index : Nat}

/-! ## What is asked of a context -/

/-- The jobs of what came into the queue, in order. -/
def tasks {job : Type} (entries : List (Entry job)) : List job :=
  entries.filterMap Entry.task?

@[simp]
theorem tasks_append
    {job : Type}
    (earlier later : List (Entry job)) :
    tasks (earlier ++ later) = tasks earlier ++ tasks later :=
  List.filterMap_append

@[simp]
theorem tasks_last
    {job : Type}
    (task : job)
    (later : List (Entry job)) :
    tasks (.last task :: later) = task :: tasks later :=
  rfl

@[simp]
theorem tasks_stop
    {job : Type}
    (later : List (Entry job)) :
    tasks (.stop :: later) = tasks later :=
  rfl

/-- A job came into the queue behind the last one. -/
def Straggles (shared : SharedSerial σ ρ) : Prop :=
  ∃ earlier task later, shared.came = earlier ++ .last task :: later ∧ tasks later ≠ []

/-- The last job is the last, and whatever came into the queue is run before the loop is
over. -/
structure Orderly (shared : SharedSerial σ ρ) : Prop where
  last :
    ∀ earlier task later,
      shared.came = earlier ++ .last task :: later → shared.begun <+: tasks earlier ++ [task]
  all :
    shared.serial.ended = true → shared.begun = tasks shared.came ∧ shared.underway = none

/-- A job comes into the queue of a context that takes no jobs any more. -/
def IsLate (shared : SharedSerial σ ρ) : Event σ ρ → Prop
  | .proceed index =>
      shared.serial.stopped = true ∧ ∃ task, shared.holders[index]? = some (.submitting task)
  | .serve =>
      shared.serial.stopped = true ∧
        ∃ job task next,
          shared.underway = some job ∧ job.cleared = true ∧ job.rest = .submit task next
  | _ => False

/-! ## Who stops the context -/

/-- Whether an entry is the last job. -/
def isLast {job : Type} : Entry job → Bool
  | .last _ => true
  | .submitted _ | .stop => false

/-- Whether a thread puts the last job into the queue next. -/
def isFinishing {job : Type} : Holder job → Bool
  | .finishing _ => true
  | .gone | .idle | .submitting _ | .stopping | .waiting => false

/-- What holds between the threads, what came into the queue, and whether jobs are refused. -/
structure Manned
    {job : Type}
    (holders : List (Holder job))
    (came : List (Entry job))
    (stopped : Bool) :
    Prop where
  /-- There is one last job at most, and none before the context is stopped. -/
  lasts : came.countP isLast + holders.countP isFinishing ≤ stopped.toNat
  stopping : .stopping ∈ holders → ∃ task, .last task ∈ came

namespace Manned

variable
  {job : Type}
  {holders : List (Holder job)}
  {came : List (Entry job)}
  {stopped : Bool}
  {new : Entry job}
  {before after : Holder job}
  {task : job}

theorem stopped_of_last
    (manned : Manned holders came stopped)
    (member : .last task ∈ came) :
    stopped = true := by
  have some : 0 < came.countP isLast := List.countP_pos_iff.mpr ⟨_, member, rfl⟩
  have most := manned.lasts
  cases stopped with
  | true => rfl
  | false =>
      simp only [Bool.toNat_false] at most
      omega

theorem last_unique
    (manned : Manned holders came stopped)
    (member : .last task ∈ came) :
    came.countP isLast = 1 ∧ holders.countP isFinishing = 0 := by
  have some : 0 < came.countP isLast := List.countP_pos_iff.mpr ⟨_, member, rfl⟩
  have most := manned.lasts
  have few := stopped.toNat_le
  omega

/-- Something other than the last job comes into the queue. -/
theorem grow
    (manned : Manned holders came stopped)
    (other : isLast new = false) :
    Manned holders (came ++ [new]) stopped where
  lasts := by
    simpa [List.countP_append, other] using manned.lasts
  stopping := by
    intro member
    obtain ⟨task, there⟩ := manned.stopping member
    exact ⟨task, List.mem_append_left _ there⟩

/-- A thread comes along. -/
theorem join (manned : Manned holders came stopped) :
    Manned (holders ++ [.idle]) came stopped where
  lasts := by
    simpa [List.countP_append, isFinishing] using manned.lasts
  stopping := by
    intro member
    exact manned.stopping (by simpa using member)

/-- A thread goes on, but not to putting the last job into the queue. -/
theorem turn
    (manned : Manned holders came stopped)
    (index : Nat)
    (quiet : isFinishing after = false)
    (stopping : after = .stopping → ∃ task, .last task ∈ came) :
    Manned (holders.set index after) came stopped where
  lasts := by
    have fewer : (holders.set index after).countP isFinishing ≤ holders.countP isFinishing := by
      by_cases inside : index < holders.length
      · rw [List.countP_set inside, quiet]
        simp
      · exact Nat.le_of_eq (by rw [List.set_eq_of_length_le (Nat.le_of_not_lt inside)])
    exact Nat.le_trans (Nat.add_le_add_left fewer _) manned.lasts
  stopping := by
    intro member
    rcases List.mem_or_eq_of_mem_set member with old | new
    · exact manned.stopping old
    · exact stopping new.symm

/-- Jobs are refused from now on, and the thread that saw to it has the last one. -/
theorem refuse
    (manned : Manned holders came false)
    (index : Nat)
    (task : job) :
    Manned (holders.set index (.finishing task)) came true where
  lasts := by
    have most := manned.lasts
    have more :
        (holders.set index (.finishing task)).countP isFinishing ≤
          holders.countP isFinishing + 1 := by
      by_cases inside : index < holders.length
      · rw [List.countP_set inside]
        simp only [isFinishing, if_true]
        omega
      · rw [List.set_eq_of_length_le (by omega)]
        omega
    simp only [Bool.toNat_false, Bool.toNat_true] at most ⊢
    omega
  stopping := by
    intro member
    rcases List.mem_or_eq_of_mem_set member with old | new
    · exact manned.stopping old
    · cases new

/-- The last job comes into the queue. -/
theorem last
    (manned : Manned holders came stopped)
    {index : Nat}
    (there : holders[index]? = some (.finishing task)) :
    Manned (holders.set index .stopping) (came ++ [.last task]) stopped where
  lasts := by
    have most := manned.lasts
    obtain ⟨inside, here⟩ := List.getElem?_eq_some_iff.mp there
    have some : 0 < holders.countP isFinishing :=
      List.countP_pos_iff.mpr ⟨_, List.mem_of_getElem? there, rfl⟩
    rw [List.countP_set inside, here, List.countP_append]
    simp only [isFinishing, isLast, List.countP_singleton, if_true, Bool.false_eq_true, if_false]
    omega
  stopping := fun _ => ⟨task, by simp⟩

end Manned

/-- Who stops a context, and what came into its queue. -/
def Kept (shared : SharedSerial σ ρ) : Prop :=
  Manned shared.holders shared.came shared.serial.stopped

/-! ## The queue and its record -/

/-- Nothing waits, and nobody is left who could hand anything in. -/
def Deserted (shared : SharedSerial σ ρ) : Prop :=
  shared.serial.queue = [] ∧ ∀ holder ∈ shared.holders, holder = .gone

/-- What the record says of the queue. -/
structure Sound (shared : SharedSerial σ ρ) : Prop where
  /-- What came into the queue was taken or waits. -/
  split :
    ∃ taken waiting,
      shared.came = taken ++ waiting ∧ shared.begun = tasks taken ∧
        shared.serial.queue = waiting.map Entry.envelope
  /-- The end of the loop comes into the queue behind the last job. -/
  stop :
    ∀ earlier later, shared.came = earlier ++ .stop :: later → ∃ task, .last task ∈ earlier
  /-- The loop leaves when it took its end, or when nothing can come any more. -/
  left :
    shared.leaving = true →
      shared.underway = none ∧
        (shared.Deserted ∨
          ∃ earlier later,
            shared.came = earlier ++ .stop :: later ∧
              shared.serial.queue = later.map Entry.envelope)
  ended : shared.serial.ended = true → shared.leaving = true

theorem sound_start
    (name : String)
    (state : σ) :
    (start name state : SharedSerial σ ρ).Sound where
  split := ⟨[], [], rfl, rfl, rfl⟩
  stop := by simp [start]
  left := by simp [start]
  ended := by simp [start]

/-- As long as somebody is there who can act, the context is not deserted. -/
theorem not_deserted
    (there : shared.holders[index]? = some holder)
    (here : holder ≠ .gone) :
    ¬ shared.Deserted := by
  intro deserted
  exact here (deserted.2 holder (List.mem_of_getElem? there))

/-- Putting something into the queue fails only when the loop is over. -/
theorem put_cases
    (shared : SharedSerial σ ρ)
    (entry : Entry (Task σ ρ)) :
    (shared.serial.ended = true ∧ shared.put entry = (.error .tornDown, shared)) ∨
      shared.serial.ended = false ∧
        shared.put entry =
          (.ok (),
            { shared with
              serial :=
                { shared.serial with queue := shared.serial.queue ++ [entry.envelope] }
              came := shared.came ++ [entry] }) := by
  cases ended : shared.serial.ended with
  | true => exact .inl ⟨rfl, by simp [put, Serial.enqueue, ended]⟩
  | false => exact .inr ⟨rfl, by simp [put, Serial.enqueue, ended]⟩

@[simp]
theorem holders_put
    (shared : SharedSerial σ ρ)
    (entry : Entry (Task σ ρ)) :
    (shared.put entry).2.holders = shared.holders := by
  rcases shared.put_cases entry with ⟨-, unchanged⟩ | ⟨-, changed⟩
  · rw [unchanged]
  · rw [changed]

namespace Sound

/-- Somebody puts a job into the queue, or the end of the loop behind the last job. -/
theorem put
    (sound : shared.Sound)
    (live : shared.leaving = true → ¬ shared.Deserted)
    (last : entry = .stop → ∃ task, .last task ∈ shared.came) :
    (shared.put entry).2.Sound := by
  rcases shared.put_cases entry with ⟨-, unchanged⟩ | ⟨-, changed⟩
  · rw [unchanged]
    exact sound
  rw [changed]
  obtain ⟨taken, waiting, came, begun, queue⟩ := sound.split
  constructor
  case split => exact ⟨taken, waiting ++ [entry], by simp [came], begun, by simp [queue]⟩
  case stop =>
    intro earlier later split
    rcases split_snoc split with ⟨rfl, same, -⟩ | ⟨shorter, whole, -⟩
    · exact last same.symm
    · exact sound.stop earlier shorter whole
  case left =>
    intro leaving
    obtain ⟨nothing, deserted | ⟨earlier, later, whole, waits⟩⟩ := sound.left leaving
    · exact absurd deserted (live leaving)
    · exact ⟨nothing, .inr ⟨earlier, later ++ [entry], by simp [whole], by simp [waits]⟩⟩
  case ended => exact sound.ended

/-- As long as somebody is there, it does not matter who. -/
theorem withHolders
    (sound : shared.Sound)
    (live : ¬ shared.Deserted)
    (holders : List (Holder (Task σ ρ))) :
    { shared with holders }.Sound where
  split := sound.split
  stop := sound.stop
  left := by
    intro leaving
    obtain ⟨nothing, deserted | taken⟩ := sound.left leaving
    · exact absurd deserted live
    · exact ⟨nothing, .inr taken⟩
  ended := sound.ended

/-- A job on the loop goes on without touching the queue. -/
theorem work
    (sound : shared.Sound)
    (stays : shared.leaving = false)
    (underway : Option (Underway σ ρ))
    {serial : Serial σ (Task σ ρ)}
    (queue : serial.queue = shared.serial.queue)
    (ended : serial.ended = shared.serial.ended) :
    { shared with underway, serial }.Sound where
  split := by simpa only [queue] using sound.split
  stop := sound.stop
  left := by
    intro leaving
    exact absurd leaving (by simp [stays])
  ended := by simpa only [ended] using sound.ended

/-- While a job runs the loop does not leave. -/
theorem stays_of_underway
    (sound : shared.Sound)
    {job : Underway σ ρ}
    (busy : shared.underway = some job) :
    shared.leaving = false := by
  cases leaving : shared.leaving with
  | false => rfl
  | true =>
      have idle := (sound.left leaving).1
      rw [busy] at idle
      cases idle

end Sound

/-! ## What a step keeps -/

/-- What a thread puts into the queue next. -/
inductive Brings {job : Type} : Holder job → Entry job → Prop where
  | submitted (task : job) : Brings (.submitting task) (.submitted task)
  | last (task : job) : Brings (.finishing task) (.last task)
  | stop : Brings .stopping .stop

/-- A thread that goes on puts something into the queue, or has waited for the loop. -/
theorem proceed?_cases
    (went : shared.proceed? index holder = some next) :
    (holder = .waiting ∧ next = shared.become index .idle) ∨
      ∃ entry after, Brings holder entry ∧ next = (shared.put entry).2.become index after := by
  cases holder with
  | gone => cases went
  | idle => cases went
  | submitting task =>
      obtain rfl := Option.some.inj went
      exact .inr ⟨_, _, .submitted task, rfl⟩
  | finishing task =>
      simp only [proceed?] at went
      split at went
      all_goals
        rename_i put
        obtain rfl := Option.some.inj went
        exact .inr ⟨_, _, .last task, by rw [put]⟩
  | stopping =>
      simp only [proceed?] at went
      split at went
      all_goals
        rename_i put
        obtain rfl := Option.some.inj went
        exact .inr ⟨_, _, .stop, by rw [put]⟩
  | waiting =>
      simp only [proceed?, Option.ite_none_right_eq_some, Option.some.injEq] at went
      exact .inl ⟨rfl, went.2.symm⟩

/-- A thread puts something other than the last job into the queue, and goes on. -/
theorem kept_put_become
    (kept : shared.Kept)
    (other : isLast entry = false)
    (quiet : isFinishing holder = false)
    (stopping : holder ≠ .stopping) :
    ((shared.put entry).2.become index holder).Kept := by
  rcases shared.put_cases entry with ⟨-, unchanged⟩ | ⟨-, changed⟩
  · rw [unchanged]
    exact Manned.turn kept index quiet fun same => absurd same stopping
  · rw [changed]
    exact (Manned.grow kept other).turn index quiet fun same => absurd same stopping

theorem kept_proceed
    (kept : shared.Kept)
    (there : shared.holders[index]? = some holder)
    (went : shared.proceed? index holder = some next) :
    next.Kept := by
  cases holder with
  | gone => cases went
  | idle => cases went
  | submitting task =>
      obtain rfl := Option.some.inj went
      exact kept_put_become kept rfl rfl (by simp)
  | finishing task =>
      simp only [proceed?] at went
      rcases shared.put_cases (.last task) with ⟨-, put⟩ | ⟨-, put⟩
      · rw [put] at went
        obtain rfl := Option.some.inj went
        exact Manned.turn kept index rfl (by simp)
      · rw [put] at went
        obtain rfl := Option.some.inj went
        exact Manned.last kept there
  | stopping =>
      simp only [proceed?] at went
      rcases shared.put_cases .stop with ⟨-, put⟩ | ⟨-, put⟩
      · rw [put] at went
        obtain rfl := Option.some.inj went
        exact Manned.turn kept index rfl (by simp)
      · rw [put] at went
        obtain rfl := Option.some.inj went
        exact (Manned.grow kept rfl).turn index rfl (by simp)
  | waiting =>
      simp only [proceed?, Option.ite_none_right_eq_some, Option.some.injEq] at went
      obtain ⟨-, rfl⟩ := went
      exact Manned.turn kept index rfl (by simp)

theorem sound_proceed
    (sound : shared.Sound)
    (kept : shared.Kept)
    (there : shared.holders[index]? = some holder)
    (went : shared.proceed? index holder = some next) :
    next.Sound := by
  rcases proceed?_cases went with ⟨rfl, rfl⟩ | ⟨entry, after, brings, rfl⟩
  · exact sound.withHolders (not_deserted there (by simp)) _
  · have here : holder ≠ .gone := by
      rintro rfl
      cases brings
    have put : (shared.put entry).2.Sound := by
      apply sound.put fun _ => not_deserted there here
      rintro rfl
      cases brings
      exact kept.stopping (List.mem_of_getElem? there)
    exact put.withHolders (not_deserted (by simpa using there) here) _

theorem kept_work
    (kept : shared.Kept)
    (job : Underway σ ρ) :
    (shared.work job).Kept := by
  obtain ⟨rest, cleared⟩ := job
  cases rest with
  | submit task next =>
      simp only [work]
      split
      · rcases shared.put_cases (.submitted task) with ⟨-, put⟩ | ⟨-, put⟩
        · rw [put]
          exact kept
        · rw [put]
          exact Manned.grow kept rfl
      · split <;> exact kept
  | _ => exact kept

theorem sound_work
    (sound : shared.Sound)
    {job : Underway σ ρ}
    (busy : shared.underway = some job) :
    (shared.work job).Sound := by
  have stays := sound.stays_of_underway busy
  obtain ⟨rest, cleared⟩ := job
  cases rest with
  | submit task next =>
      simp only [work]
      split
      · have put : (shared.put (.submitted task)).2.Sound :=
          sound.put (fun leaving => absurd leaving (by simp [stays])) (by simp)
        refine put.work ?_ _ rfl rfl
        rcases shared.put_cases (.submitted task) with ⟨-, same⟩ | ⟨-, same⟩
        · rw [same]
          exact stays
        · rw [same]
          exact stays
      · split <;> exact sound.work stays _ rfl rfl
  | _ => exact sound.work stays _ rfl rfl

/-- What the loop does between two jobs. -/
theorem take?_cases
    (took : shared.take? = some next) :
    (shared.leaving = true ∧
        next = { shared with serial := { shared.serial with ended := true } }) ∨
      shared.leaving = false ∧
        ((shared.Deserted ∧ next = { shared with leaving := true }) ∨
          (∃ rest,
            shared.serial.queue = .stop :: rest ∧
              next =
                { shared with
                  leaving := true
                  serial := { shared.serial with queue := rest } }) ∨
          ∃ task rest,
            shared.serial.queue = .run task :: rest ∧
              next =
                { shared with
                  underway := some { rest := task }
                  begun := shared.begun ++ [task]
                  serial := { shared.serial with queue := rest } }) := by
  simp only [take?, Option.ite_none_left_eq_some] at took
  obtain ⟨-, took⟩ := took
  cases leaving : shared.leaving with
  | true =>
      rw [leaving, if_pos rfl] at took
      exact .inl ⟨rfl, (Option.some.inj took).symm⟩
  | false =>
      rw [leaving, if_neg (by simp)] at took
      refine .inr ⟨rfl, ?_⟩
      split at took
      · case h_1 queue =>
        simp only [Option.ite_none_right_eq_some, List.all_eq_true] at took
        obtain ⟨gone, took⟩ := took
        refine .inl ⟨⟨queue, fun holder member => ?_⟩, (Option.some.inj took).symm⟩
        have nobody := gone holder member
        cases holder <;> simp at nobody ⊢
      · case h_2 rest queue =>
        exact .inr (.inl ⟨rest, queue, (Option.some.inj took).symm⟩)
      · case h_3 task rest queue =>
        exact .inr (.inr ⟨task, rest, queue, (Option.some.inj took).symm⟩)

theorem kept_take
    (kept : shared.Kept)
    (took : shared.take? = some next) :
    next.Kept := by
  obtain ⟨-, rfl⟩ | ⟨-, ⟨-, rfl⟩ | ⟨_, -, rfl⟩ | ⟨_, _, -, rfl⟩⟩ :=
    take?_cases took
  all_goals exact kept

theorem sound_take
    (sound : shared.Sound)
    (idle : shared.underway = none)
    (took : shared.take? = some next) :
    next.Sound := by
  obtain ⟨taken, waiting, came, begun, queue⟩ := sound.split
  obtain ⟨leaving, rfl⟩ |
      ⟨stays, ⟨deserted, rfl⟩ | ⟨rest, first, rfl⟩ | ⟨task, rest, first, rfl⟩⟩ :=
    take?_cases took
  case inl => exact ⟨sound.split, sound.stop, sound.left, fun _ => leaving⟩
  case inr.inl =>
    exact ⟨sound.split, sound.stop, fun _ => ⟨idle, .inl deserted⟩, fun _ => rfl⟩
  case inr.inr.inl =>
    rw [first] at queue
    obtain ⟨entry, entries, rfl, same, waits⟩ := List.map_eq_cons_iff.mp queue.symm
    obtain rfl : entry = .stop := by cases entry <;> first | rfl | cases same
    refine
      ⟨⟨taken ++ [.stop], entries, ?_, ?_, waits.symm⟩, sound.stop,
        fun _ => ?_, fun _ => rfl⟩
    · simpa using came
    · simp [begun, tasks, List.filterMap_cons, Entry.task?]
    · exact ⟨idle, .inr ⟨taken, entries, came, waits.symm⟩⟩
  case inr.inr.inr =>
    rw [first] at queue
    obtain ⟨entry, entries, rfl, same, waits⟩ := List.map_eq_cons_iff.mp queue.symm
    have brings : entry.task? = some task := by
      cases entry <;> simp_all [Entry.envelope, Entry.task?]
    refine
      ⟨⟨taken ++ [entry], entries, ?_, ?_, waits.symm⟩, sound.stop, fun leaving => ?_, ?_⟩
    · simpa using came
    · simp [begun, tasks, brings]
    · exact absurd leaving (by simp [stays])
    · exact sound.ended

/-- The ways in which something can happen. -/
inductive Happens (shared : SharedSerial σ ρ) : Event σ ρ → SharedSerial σ ρ → Prop where
  | nothing (event : Event σ ρ) : Happens shared event shared
  | join
      (index : Nat)
      (there : shared.holders[index]? = some .idle) :
      Happens shared (.clone index) { shared with holders := shared.holders ++ [.idle] }
  | part
      (index : Nat)
      (there : shared.holders[index]? = some .idle) :
      Happens shared (.release index) (shared.become index .gone)
  | look
      (index : Nat)
      (task : Task σ ρ)
      (there : shared.holders[index]? = some .idle)
      (taking : shared.serial.stopped = false) :
      Happens shared (.submit index task) (shared.become index (.submitting task))
  | refuse
      (index : Nat)
      (task : Task σ ρ)
      (there : shared.holders[index]? = some .idle)
      (taking : shared.serial.stopped = false) :
      Happens shared (.finish index task)
        ({ shared with serial := { shared.serial with stopped := true } }.become index
          (.finishing task))
  | proceed
      (index : Nat)
      {holder : Holder (Task σ ρ)}
      {next : SharedSerial σ ρ}
      (there : shared.holders[index]? = some holder)
      (went : shared.proceed? index holder = some next) :
      Happens shared (.proceed index) next
  | work
      (job : Underway σ ρ)
      (busy : shared.underway = some job) :
      Happens shared .serve (shared.work job)
  | take
      {next : SharedSerial σ ρ}
      (idle : shared.underway = none)
      (took : shared.take? = some next) :
      Happens shared .serve next

theorem happens_of_step?
    {event : Event σ ρ}
    (stepped : shared.step? event = some next) :
    Happens shared event next := by
  cases event with
  | clone index =>
      simp only [step?] at stepped
      split at stepped
      case h_2 => cases stepped
      case h_1 there =>
        obtain rfl := Option.some.inj stepped
        exact .join index there
  | release index =>
      simp only [step?] at stepped
      split at stepped
      case h_2 => cases stepped
      case h_1 there =>
        obtain rfl := Option.some.inj stepped
        exact .part index there
  | submit index task =>
      simp only [step?] at stepped
      split at stepped
      case h_2 => cases stepped
      case h_1 there =>
        cases stopped : shared.serial.stopped with
        | true =>
            rw [stopped, if_pos rfl] at stepped
            obtain rfl := Option.some.inj stepped
            exact .nothing _
        | false =>
            rw [stopped, if_neg (by simp)] at stepped
            obtain rfl := Option.some.inj stepped
            exact .look index task there stopped
  | finish index task =>
      simp only [step?, Serial.refuse] at stepped
      split at stepped
      case h_2 => cases stepped
      case h_1 there =>
        split at stepped
        · cases stepped
        cases stopped : shared.serial.stopped with
        | true =>
            simp only [stopped, Bool.not_true, Option.some.injEq] at stepped
            have same : { shared.serial with stopped := true } = shared.serial := by
              rw [← stopped]
            rw [same] at stepped
            exact stepped ▸ .nothing _
        | false =>
            simp only [stopped, Bool.not_false, Option.some.injEq] at stepped
            exact stepped ▸ .refuse index task there stopped
  | proceed index =>
      obtain ⟨holder, there, went⟩ := Option.bind_eq_some_iff.mp stepped
      exact .proceed index there went
  | serve =>
      simp only [step?] at stepped
      split at stepped
      case h_1 job busy =>
        obtain rfl := Option.some.inj stepped
        exact .work job busy
      case h_2 idle => exact .take idle stepped

theorem kept_step
    {event : Event σ ρ}
    (kept : shared.Kept)
    (stepped : shared.step? event = some next) :
    next.Kept := by
  cases happens_of_step? stepped with
  | nothing => exact kept
  | join index there => exact Manned.join kept
  | part index there => exact Manned.turn kept index rfl (by simp)
  | look index task there taking => exact Manned.turn kept index rfl (by simp)
  | refuse index task there taking =>
      have manned : Manned shared.holders shared.came false := taking ▸ kept
      exact manned.refuse index task
  | proceed index there went => exact kept_proceed kept there went
  | work job busy => exact kept_work kept job
  | take idle took => exact kept_take kept took

theorem sound_step
    {event : Event σ ρ}
    (kept : shared.Kept)
    (sound : shared.Sound)
    (stepped : shared.step? event = some next) :
    next.Sound := by
  cases happens_of_step? stepped with
  | nothing => exact sound
  | join index there => exact sound.withHolders (not_deserted there (by simp)) _
  | part index there => exact sound.withHolders (not_deserted there (by simp)) _
  | look index task there taking => exact sound.withHolders (not_deserted there (by simp)) _
  | refuse index task there taking =>
      have stopped : { shared with serial := { shared.serial with stopped := true } }.Sound :=
        ⟨sound.split, sound.stop, sound.left, sound.ended⟩
      exact stopped.withHolders (not_deserted there (by simp)) _
  | proceed index there went => exact sound_proceed sound kept there went
  | work job busy => exact sound_work sound busy
  | take idle took => exact sound_take sound idle took

theorem kept_sound_run
    {name : String}
    {state : σ}
    {events : List (Event σ ρ)}
    (ran : events.foldlM step? (start name state) = some final) :
    final.Kept ∧ final.Sound := by
  induction ran using foldlM_induction with
  | none => exact ⟨⟨by simp [start, isFinishing], by simp [start]⟩, sound_start name state⟩
  | snoc events event between final before stepped ih =>
      exact ⟨kept_step ih.1 stepped, sound_step ih.1 ih.2 stepped⟩

/-! ## What is kept and what is not -/

section Runs

variable
  {name : String}
  {state : σ}
  {events : List (Event σ ρ)}

/-- Without a job that came too late nothing is behind the last one. -/
theorem tasks_of_punctual
    (punctual : ¬ final.Straggles)
    {earlier later : List (Entry (Task σ ρ))}
    {task : Task σ ρ}
    (whole : final.came = earlier ++ .last task :: later) :
    tasks later = [] := by
  by_contra some
  exact punctual ⟨earlier, task, later, whole, some⟩

/-- When the loop is over, no job waits that came before its end. -/
theorem begun_of_ended
    (sound : final.Sound)
    (punctual : ¬ final.Straggles)
    (ended : final.serial.ended = true) :
    final.begun = tasks final.came ∧ final.underway = none := by
  obtain ⟨taken, waiting, came, begun, queue⟩ := sound.split
  obtain ⟨idle, deserted | ⟨earlier, later, whole, waits⟩⟩ := sound.left (sound.ended ended)
  · have nobody : waiting = [] := by simpa [deserted.1] using queue.symm
    exact ⟨by rw [came, begun, nobody, List.append_nil], idle⟩
  · obtain ⟨task, member⟩ := sound.stop earlier later whole
    obtain ⟨sooner, between, rfl⟩ := List.append_of_mem member
    rw [List.append_assoc, List.cons_append] at whole
    have nothing := tasks_of_punctual punctual whole
    have same : taken ++ waiting = (sooner ++ .last task :: between ++ [.stop]) ++ later := by
      rw [← came, whole]
      simp
    have long : waiting.length = later.length := by
      simpa [waits] using congrArg List.length queue.symm
    obtain ⟨-, rfl⟩ := List.append_inj' same long
    simp only [tasks_append, tasks_stop, List.append_eq_nil_iff] at nothing
    exact ⟨by rw [came, begun, tasks_append, nothing.2, List.append_nil], idle⟩

/-- Jobs are begun in the order in which they came into the queue, each at most once.  If no
job came too late, the last job is the last, and everything is run before the loop is over;
if one did, then by the time the loop is over it was run behind the last job or not at all. -/
theorem orderly_iff (ran : events.foldlM step? (start name state) = some final) :
    final.begun <+: tasks final.came ∧
      (¬ final.Straggles → final.Orderly) ∧
        (final.serial.ended = true → final.Straggles → ¬ final.Orderly) := by
  obtain ⟨-, sound⟩ := kept_sound_run ran
  obtain ⟨taken, waiting, came, begun, -⟩ := sound.split
  have order : final.begun <+: tasks final.came := by
    rw [came, tasks_append, begun]
    exact List.prefix_append _ _
  refine ⟨order, fun punctual => ⟨?_, begun_of_ended sound punctual⟩, ?_⟩
  · intro earlier task later whole
    rw [whole, tasks_append, tasks_last, tasks_of_punctual punctual whole] at order
    exact order
  · rintro ended ⟨earlier, task, later, whole, some⟩ orderly
    obtain ⟨all, -⟩ := orderly.all ended
    have behind := (orderly.last earlier task later whole).length_le
    rw [all, whole, tasks_append, tasks_last] at behind
    have more := List.length_pos_iff.mpr some
    simp only [List.length_append, List.length_cons, List.length_nil] at behind
    omega

/-- A job that notes a number. -/
def noting (number : Nat) : Task (List Nat) Unit :=
  .change (· ++ [number]) (.answer fun _ => ())

/-- A thread with a job to hand in looks, and another stops the context and puts the last job
into the queue.  Then they go on in some order, and then the loop. -/
def overtaking
    (order : List Nat)
    (served : Nat) :
    List (Event (List Nat) Unit) :=
  [.clone 0, .submit 0 (noting 1), .finish 1 (noting 2), .proceed 1] ++ order.map .proceed ++
    List.replicate served .serve

/-- A job that comes into the queue behind the end of the loop is not run. -/
theorem orderly_iff_left_over :
    ∃ final,
      (overtaking [1, 0] 5).foldlM step? (start "numbers" []) = some final ∧
        final.serial.ended = true ∧ final.serial.state = [2] ∧
          tasks final.came = [noting 2, noting 1] ∧ ¬ final.Orderly := by
  obtain ⟨final, ran, ended, state, came⟩ :
      ∃ final,
        (overtaking [1, 0] 5).foldlM step? (start "numbers" []) = some final ∧
          final.serial.ended = true ∧ final.serial.state = [2] ∧
            final.came = [.last (noting 2), .stop, .submitted (noting 1)] :=
    ⟨_, rfl, rfl, rfl, rfl⟩
  obtain ⟨-, -, disorder⟩ := orderly_iff ran
  refine ⟨final, ran, ended, state, by rw [came]; rfl, disorder ended ?_⟩
  exact ⟨[], _, _, came, by simp [tasks, Entry.task?]⟩

/-- Not every context keeps the last job the last: one that came too late can be run behind
it. -/
theorem not_always_orderly :
    ¬ ∀ (events : List (Event (List Nat) Unit)) (final : SharedSerial (List Nat) Unit),
      events.foldlM step? (start "numbers" []) = some final → final.Orderly := by
  intro always
  obtain ⟨final, ran, came, begun⟩ :
      ∃ final,
        (overtaking [0, 1] 8).foldlM step? (start "numbers" []) = some final ∧
          final.came = [.last (noting 2), .submitted (noting 1), .stop] ∧
            final.begun = [noting 2, noting 1] :=
    ⟨_, rfl, rfl, rfl⟩
  have short := ((always _ final ran).last [] _ _ came).length_le
  rw [begun] at short
  simp [tasks] at short

/-- Putting something into the queue is all that changes the record of it. -/
theorem came_put_cases
    (shared : SharedSerial σ ρ)
    (entry : Entry (Task σ ρ)) :
    (shared.put entry).2.came = shared.came ∨
      (shared.put entry).2.came = shared.came ++ [entry] := by
  rcases shared.put_cases entry with ⟨-, unchanged⟩ | ⟨-, changed⟩
  · exact .inl (by rw [unchanged])
  · exact .inr (by rw [changed])

/-- A job that somebody hands in when jobs are refused comes too late. -/
theorem came_of_happens
    {event : Event σ ρ}
    (happens : Happens shared event next) :
    next.came = shared.came ∨
      ∃ entry,
        next.came = shared.came ++ [entry] ∧
          ∀ task, entry = .submitted task →
            shared.serial.stopped = true → shared.IsLate event := by
  cases happens with
  | nothing => exact .inl rfl
  | join => exact .inl rfl
  | part => exact .inl rfl
  | look => exact .inl rfl
  | refuse => exact .inl rfl
  | proceed index there went =>
      rcases proceed?_cases went with ⟨-, rfl⟩ | ⟨entry, after, brings, rfl⟩
      · exact .inl rfl
      rcases shared.came_put_cases entry with same | more
      · exact .inl same
      · refine .inr ⟨entry, more, ?_⟩
        rintro task rfl stopped
        cases brings
        exact ⟨stopped, task, there⟩
  | work job busy =>
      obtain ⟨rest, cleared⟩ := job
      cases rest with
      | submit task next =>
          simp only [work]
          split
          case isTrue clear =>
            rcases shared.came_put_cases (.submitted task) with same | more
            · exact .inl same
            · exact .inr
                ⟨_, more, fun _ _ stopped => ⟨stopped, _, task, next, busy, clear, rfl⟩⟩
          case isFalse => split <;> exact .inl rfl
      | _ => exact .inl rfl
  | take idle took =>
      obtain ⟨-, rfl⟩ | ⟨-, ⟨-, rfl⟩ | ⟨_, -, rfl⟩ | ⟨_, _, -, rfl⟩⟩ :=
        take?_cases took
      all_goals exact .inl rfl

/-- The step that puts a job behind the last one is late. -/
theorem isLate_of_straggles
    {event : Event σ ρ}
    (kept : shared.Kept)
    (stepped : shared.step? event = some next)
    (punctual : ¬ shared.Straggles)
    (straggles : next.Straggles) :
    shared.IsLate event := by
  obtain ⟨earlier, last, later, whole, some⟩ := straggles
  rcases came_of_happens (happens_of_step? stepped) with same | ⟨entry, more, late⟩
  · exact absurd ⟨earlier, last, later, same ▸ whole, some⟩ punctual
  rw [more] at whole
  rcases split_snoc whole with ⟨-, -, rfl⟩ | ⟨shorter, before, rfl⟩
  · exact absurd rfl some
  have known : .last last ∈ shared.came := by simp [before]
  cases entry with
  | submitted task => exact late task rfl (kept.stopped_of_last known)
  | last task =>
      -- The context was stopped once only, so there is no second last job.
      have one := (kept.last_unique known).1
      have again : .last task ∈ next.came := by simp [more]
      have two := ((kept_step kept stepped).last_unique again).1
      rw [more, List.countP_append, one] at two
      simp [isLast] at two
  | stop =>
      rw [tasks_append, tasks_of_punctual punctual before] at some
      exact absurd rfl some

/-- Jobs come too late only where a thread, or a job on the loop, had looked before the
context was stopped and puts its job into the queue afterwards. -/
theorem exists_late_of_straggles
    (ran : events.foldlM step? (start name state) = some final)
    (straggles : final.Straggles) :
    ∃ earlier event later between,
      events = earlier ++ event :: later ∧
        earlier.foldlM step? (start name state) = some between ∧ between.IsLate event := by
  induction ran using foldlM_induction with
  | none =>
      obtain ⟨earlier, task, later, whole, -⟩ := straggles
      simp [start] at whole
  | snoc events event between final before stepped ih =>
      by_cases already : between.Straggles
      · obtain ⟨earlier, late, later, moment, rfl, upTo, isLate⟩ := ih already
        exact ⟨earlier, late, later ++ [event], moment, by simp, upTo, isLate⟩
      · refine ⟨events, event, [], between, rfl, before, ?_⟩
        exact isLate_of_straggles (kept_sound_run before).1 stepped already straggles

end Runs

end LineProtocol.SharedSerial
