import LineProtocol.Proofs.Client.Reads
import LineProtocol.Proofs.Run
import LineProtocol.Proofs.Server.Reads
import LineProtocol.World
import Mathlib.Data.String.Basic

/-!
# The sides of a world

A world changes its server and its clients by their steps alone, and each step is a run.
What holds after every run of a server therefore holds of the server of every world, and
what holds after every run of a client holds of its clients.

What a world shows of its server's handler is what that was given: of each sender nothing is
shown twice or left out, and it is shown in order.
-/

namespace LineProtocol

namespace World

/-! ## What changes a world -/

/-- Whether a peer came out of a run of its own, if it is a client. -/
def Runs (settings : WorldSettings) : Peer → Prop
  | .client session _ =>
      ∃ moves, session = ClientSession.facade.after (newClient settings) moves
  | .bare _ _ => True

/-- The server and the clients of a world came out of runs of their own. -/
structure Sided (world : World) : Prop where
  server :
    ∃ moves, world.server = ServerSession.facade.after (newServer world.settings) moves
  peers : ∀ name peer, world.peers.find? name = some peer → Runs world.settings peer

/-- Between two worlds both sides ran, and nothing was shown. -/
structure Goes (before after : World) : Prop where
  settings : after.settings = before.settings
  sided : Sided before → Sided after
  shown : after.shown = before.shown
  messages : Sided before → before.server.messages <+: after.server.messages

variable
  {world before between after : World}
  {name : String}
  {session : ClientSession}
  {shown : Nat}

theorem goes_of_eq
    (settings : after.settings = before.settings)
    (server : after.server = before.server)
    (peers : after.peers = before.peers)
    (shown : after.shown = before.shown) :
    Goes before after where
  settings := settings
  sided sided := by
    constructor
    · rw [settings, server]
      exact sided.server
    · rw [settings, peers]
      exact sided.peers
  shown := shown
  messages _ := by simp only [server, List.prefix_rfl]

theorem Goes.refl (world : World) : Goes world world :=
  goes_of_eq rfl rfl rfl rfl

theorem Goes.trans
    (first : Goes before between)
    (second : Goes between after) :
    Goes before after where
  settings := second.settings.trans first.settings
  sided := second.sided ∘ first.sided
  shown := second.shown.trans first.shown
  messages sided := (first.messages sided).trans (second.messages (first.sided sided))

/-- The world that was answered is one to which the sides ran. -/
theorem Goes.answered
    (goes : Goes before between)
    {given reply : Reply}
    (same : some (given, between) = some (reply, after)) :
    Goes before after := by
  obtain ⟨-, rfl⟩ := Prod.mk.inj (Option.some.inj same)
  exact goes

/-- The server of a world numbers its connections. -/
theorem Sided.numbered (sided : Sided world) : world.server.Numbered := by
  obtain ⟨moves, leads⟩ := sided.server
  rw [leads]
  have okay :=
    (ServerSession.facade_lawful (newServer world.settings).framing).ok_after
      ⟨rfl, ServerSession.numbered_start _ _ _ _ _ _⟩ moves
  exact okay.2

theorem goes_serve
    (world : World)
    (step : ServerSession.Step) :
    Goes world (world.serve step).2 := by
  obtain ⟨jobs, learnt, leads, -⟩ := world.server.exists_serves_step step
  have server :
      (world.serve step).2.server =
        ServerSession.facade.after world.server
          (.act step :: .work :: (List.replicate jobs .serve ++ learnt)) :=
    leads
  constructor
  case settings => rfl
  case sided =>
    intro sided
    obtain ⟨moves, came⟩ := sided.server
    refine ⟨⟨moves ++ .act step :: .work :: (List.replicate jobs .serve ++ learnt), ?_⟩,
      sided.peers⟩
    rw [server, came]
    exact List.foldl_append.symm
  case shown => rfl
  case messages =>
    intro sided
    rw [server]
    exact ServerSession.prefix_messages_after sided.numbered _

/-- A peer is put in place of another. -/
theorem goes_insert
    {peer : Peer}
    (runs : Sided world → Runs world.settings peer)
    (errands : List Errand) :
    Goes world { world with peers := world.peers.insert name peer, errands } where
  settings := rfl
  sided sided := by
    refine ⟨sided.server, fun other found there => ?_⟩
    rw [Table.find?_insert] at there
    split at there
    · rw [← Option.some.inj there]
      exact runs sided
    · exact sided.peers other found there
  shown := rfl
  messages _ := List.prefix_rfl

theorem goes_bare
    (world : World)
    (name : String)
    (connected : Bool)
    (received : Bytes) :
    Goes world { world with peers := world.peers.insert name (.bare connected received) } := by
  have runs : Sided world → Runs world.settings (.bare connected received) :=
    fun _ => trivial
  exact goes_insert runs world.errands

theorem goes_erase
    (world : World)
    (name : String) :
    Goes world { world with peers := world.peers.erase name } where
  settings := rfl
  sided sided := by
    refine ⟨sided.server, fun other found there => ?_⟩
    rw [Table.find?_erase] at there
    split at there
    · cases there
    · exact sided.peers other found there
  shown := rfl
  messages _ := List.prefix_rfl

/-- A client makes a step, wherever it came from. -/
theorem goes_act
    (runs : Sided world → Runs world.settings (.client session shown))
    (step : ClientSession.Step) :
    Goes world (world.act name session shown step).2 := by
  obtain ⟨jobs, leads⟩ := session.exists_serves_step step
  apply goes_insert
  intro sided
  obtain ⟨moves, came⟩ := runs sided
  refine ⟨moves ++ .act step :: .work :: List.replicate jobs .serve, ?_⟩
  rw [came] at leads ⊢
  exact leads.trans List.foldl_append.symm

/-- A client that is there makes a step. -/
theorem goes_act_of_find?
    (there : world.peers.find? name = some (.client session shown))
    (step : ClientSession.Step) :
    Goes world (world.act name session shown step).2 :=
  goes_act (fun sided => sided.peers name _ there) step

theorem goes_report
    (there : world.peers.find? name = some (.client session shown))
    (report : Report) :
    Goes world (world.report name session shown report) := by
  rw [World.report]
  split
  · exact goes_act_of_find? there _
  · exact .refl world

/-! ## Errands -/

theorem goes_toPeer
    (world : World)
    (name : String)
    (bytes : Bytes) :
    Goes world (world.toPeer name bytes) := by
  rw [toPeer]
  split
  · rename_i session shown there
    exact goes_report there _
  · exact world.goes_bare name _ _
  · exact .refl world

theorem goes_cut
    (world : World)
    (wire : Wire) :
    Goes world (world.cut wire) := by
  have unwired : Goes world { world with wires := world.wires.filter (· ≠ wire) } :=
    goes_of_eq rfl rfl rfl rfl
  have told := unwired.trans (goes_serve _ (.report wire.remote (.closed true)))
  rw [cut]
  split
  · rename_i session shown there
    exact told.trans (goes_report there _)
  · exact told.trans (goes_bare _ wire.peer _ _)
  · exact told

theorem goes_run
    (world : World)
    (errand : Errand) :
    Goes world (world.run errand) := by
  rw [World.run]
  split
  · split
    · split
      · exact goes_toPeer _ _ _
      · exact .refl world
    · exact .refl world
  · split
    · exact goes_cut _ _
    · exact goes_serve _ _
  · split
    · split
      · exact goes_serve _ _
      · exact .refl world
    · exact .refl world
  · split
    · exact goes_cut _ _
    · exact .refl world
  · exact .refl world

theorem goes_settle
    (count : Nat)
    (world : World) :
    Goes world (settle count world) := by
  induction count generalizing world with
  | zero => exact .refl world
  | succ count ih =>
      rw [settle]
      split
      · exact .refl world
      · rename_i errand rest waiting
        have first : Goes world { world with errands := rest } := goes_of_eq rfl rfl rfl rfl
        exact (first.trans (goes_run _ errand)).trans (ih _)

/-! ## Requests -/

theorem goes_join
    (world : World)
    (name : String) :
    Goes world (world.join name) := by
  have served :=
    world.goes_serve (.join (some { ip := .v4 .loopback, port := 0 }) (some name))
  rw [join]
  split
  · rename_i remote after came
    rw [came] at served
    exact served.trans (goes_of_eq rfl rfl rfl rfl)
  · rename_i reply after _ came
    rw [came] at served
    exact served

/-- The client that connects under a name came out of a run. -/
theorem Sided.runs_clientOf
    (sided : Sided world)
    (name : String) :
    Runs world.settings (.client (world.clientOf name).1 (world.clientOf name).2) := by
  rw [clientOf]
  split
  · rename_i session shown there
    exact sided.peers name _ there
  · exact ⟨[], rfl⟩

theorem goes_dial
    (world : World)
    (name : String)
    (port : UInt16)
    (failure : Option String) :
    Goes world (world.dial name port failure) :=
  goes_act (fun sided => sided.runs_clientOf name) _

theorem goes_connectClient
    {reply : Reply}
    (connected : world.connectClient name = some (reply, after)) :
    Goes world after := by
  rw [connectClient] at connected
  split at connected
  · exact (goes_dial _ _ _ _).answered connected
  · rename_i address bound
    split at connected
    · split at connected
      · exact (goes_serve _ _).answered connected
      · have dialled := world.goes_dial name address.port none
        refine Goes.answered (Goes.trans ?_ (goes_join _ _)) connected
        split
        · rename_i session shown there
          exact dialled.trans (goes_report there _)
        · exact dialled
    · cases connected

theorem goes_connectBare
    (world : World)
    (name : String) :
    Goes world (world.connectBare name).2 := by
  rw [connectBare]
  split
  · split
    · exact goes_serve _ _
    · exact (world.goes_bare name true []).trans (goes_join _ _)
  · exact .refl world

theorem goes_resetBare
    (world : World)
    (wire : Wire) :
    Goes world (world.resetBare wire) := by
  have unwired : Goes world { world with wires := world.wires.filter (· ≠ wire) } :=
    goes_of_eq rfl rfl rfl rfl
  have sent := unwired.trans (goes_serve _ (.send "reset" (some (.client (.named wire.peer)))))
  have broke := sent.trans (goes_serve _ (.report wire.remote (.broke "connection reset")))
  have closed := broke.trans (goes_serve _ (.report wire.remote (.closed true)))
  exact closed.trans (goes_bare _ wire.peer false [])

theorem goes_shutDownClient
    (there : world.peers.find? name = some (.client session shown)) :
    Goes world (world.shutDownClient name session shown).2 := by
  have shut := goes_act_of_find? there .shutdown
  exact (shut.trans (goes_settle _ _)).trans (goes_erase _ name)

/-- A request makes of a world what its sides make of themselves. -/
theorem goes_perform?
    {request : Step}
    {reply : Reply}
    (performed : world.perform? request = some (reply, after)) :
    Goes world after := by
  cases request with
  | server call =>
      have served := world.goes_serve call
      simp only [perform?] at performed
      split at performed
      · rename_i outcome later came
        rw [came] at served
        exact served.answered performed
      · rename_i outcome later _ came
        rw [came] at served
        exact served.answered performed
  | connect name bare =>
      cases bare with
      | true => exact (world.goes_connectBare name).answered performed
      | false => exact goes_connectClient performed
  | sendText name text =>
      simp only [perform?] at performed
      split at performed
      · rename_i session shown there
        exact (goes_act_of_find? there _).answered performed
      · exact (Goes.refl world).answered performed
  | sendBytes name bytes =>
      simp only [perform?] at performed
      split at performed
      · exact (goes_serve _ _).answered performed
      · exact (Goes.refl world).answered performed
  | close name =>
      simp only [perform?] at performed
      split at performed
      · rename_i session shown there
        exact (goes_act_of_find? there _).answered performed
      · refine Goes.answered ?_ performed
        split
        · exact goes_cut _ _
        · exact .refl world
      · exact (Goes.refl world).answered performed
  | reset name =>
      simp only [perform?] at performed
      split at performed
      · exact (goes_resetBare _ _).answered performed
      · exact (Goes.refl world).answered performed
  | shutDown name =>
      simp only [perform?] at performed
      split at performed
      · rename_i session shown there
        exact (goes_shutDownClient there).answered performed
      · exact (Goes.refl world).answered performed

/-! ## What is shown -/

/-- Makes a step, and adds what it shows to what the steps before it showed. -/
def play?
    (played : List Entry × World)
    (request : Step) :
    Option (List Entry × World) :=
  (played.2.step? request).map fun (entry, after) => (played.1 ++ [entry], after)

/-- Putting messages into the order of their senders leaves those of one sender in order. -/
theorem filter_heard
    (world : World)
    (sender : Identity) :
    world.heard.filter (·.sender = sender) =
      (world.server.messages.drop world.shown).filter (·.sender = sender) := by
  have whole : world.heard.Perm (world.server.messages.drop world.shown) :=
    List.mergeSort_perm _ _
  have ordered :
      ((world.server.messages.drop world.shown).filter (·.sender = sender)).Pairwise
        fun left right => decide (left.sender.text ≤ right.sender.text) = true := by
    rw [List.pairwise_filter]
    refine List.pairwise_of_forall fun left right mine yours => ?_
    rw [of_decide_eq_true mine, of_decide_eq_true yours, decide_eq_true_eq]
  have among :
      ((world.server.messages.drop world.shown).filter (·.sender = sender)).Sublist
        world.heard := by
    apply List.sublist_mergeSort _ _ ordered List.filter_sublist
    · simp only [decide_eq_true_eq]
      exact fun first second third => le_trans
    · simp only [Bool.or_eq_true, decide_eq_true_eq]
      exact fun left right => le_total _ _
  have kept := among.filter (·.sender = sender)
  rw [List.filter_filter] at kept
  simp only [Bool.and_self] at kept
  exact (kept.eq_of_length (whole.filter _).length_eq.symm).symm

/-- After the steps of a world, both sides ran, and what the server's handler was given was
shown. -/
structure Shown
    (settings : WorldSettings)
    (played : List Entry × World) : Prop where
  settings : played.2.settings = settings
  sided : Sided played.2
  shown : played.2.shown = played.2.server.messages.length
  heard :
    ∀ sender : Identity,
      (played.1.flatMap (·.heard)).filter (·.sender = sender) =
        played.2.server.messages.filter (·.sender = sender)

variable
  {settings : WorldSettings}
  {played next : List Entry × World}

theorem Shown.step
    (shown : Shown settings played)
    {request : Step}
    (plays : play? played request = some next) :
    Shown settings next := by
  obtain ⟨entries, world⟩ := played
  rw [play?, Option.map_eq_some_iff] at plays
  obtain ⟨⟨entry, final⟩, steps, rfl⟩ := plays
  rw [step?, Option.map_eq_some_iff] at steps
  obtain ⟨⟨reply, acted⟩, performed, same⟩ := steps
  obtain ⟨rfl, rfl⟩ := Prod.mk.inj same
  have goes := (goes_perform? performed).trans (goes_settle patience acted)
  have sided := goes.sided shown.sided
  constructor
  case settings => exact goes.settings.trans shown.settings
  case sided =>
    refine ⟨sided.server, fun name peer there => ?_⟩
    rw [seen, Table.find?_map, Option.map_eq_some_iff] at there
    obtain ⟨before, found, rfl⟩ := there
    have runs := sided.peers name before found
    cases before with
    | client session shown => exact runs
    | bare connected received => exact runs
  case shown => rfl
  case heard =>
    intro sender
    obtain ⟨more, longer⟩ := goes.messages shown.sided
    have new :
        (settle patience acted).server.messages.drop (settle patience acted).shown = more := by
      rw [goes.shown, shown.shown, ← longer, List.drop_left]
    rw [List.flatMap_append, List.filter_append, shown.heard sender]
    simp only [List.flatMap_singleton]
    rw [filter_heard, new]
    show _ = (settle patience acted).server.messages.filter _
    rw [← longer, List.filter_append]

variable
  {requests : List Step}
  {entries : List Entry}
  {final : World}

theorem shown_run
    (ran : requests.foldlM play? ([], start settings) = some (entries, final)) :
    Shown settings (entries, final) := by
  have sided : Sided (start settings) := by
    refine ⟨⟨[], rfl⟩, fun name peer there => ?_⟩
    rw [start, Table.find?_empty] at there
    cases there
  have begins : Shown settings ([], start settings) := ⟨rfl, sided, rfl, fun _ => rfl⟩
  exact foldlM_keeps (fun _ _ _ shown plays => shown.step plays) begins ran

/-- Whatever is asked of a world, its server and its clients go the way of a server and of
clients: what they are is what a run of theirs leads to.  As long as the server takes
messages, each of its connections was read as its framing says, and was handed over. -/
theorem sides_of_run
    (ran : requests.foldlM play? ([], start settings) = some (entries, final)) :
    (∃ moves,
      final.server = ServerSession.facade.after (newServer settings) moves ∧
        (final.server.core.crew.accepting = true →
          Seated settings.server.framing (ServerSession.facade.seat? final.server)
            (ServerSession.facade.deeds (newServer settings) moves))) ∧
      ∀ name session shown, final.peers.find? name = some (.client session shown) →
        ∃ moves,
          session = ClientSession.facade.after (newClient settings) moves ∧
            (session.core.crew.accepting = true →
              Seated settings.client.framing (ClientSession.facade.seat? session)
                (ClientSession.facade.deeds (newClient settings) moves)) := by
  have shown := shown_run ran
  obtain ⟨moves, leads⟩ := shown.sided.server
  have same : final.settings = settings := shown.settings
  constructor
  · refine ⟨moves, same ▸ leads, fun accepting => ?_⟩
    rw [show final.server = _ from leads, same] at accepting ⊢
    exact ServerSession.seated _ _ _ _ _ _ moves accepting
  · intro name session count there
    obtain ⟨moves, leads⟩ := shown.sided.peers name _ there
    rw [same] at leads
    subst leads
    exact ⟨moves, rfl, fun accepting => ClientSession.seated _ _ _ _ moves accepting⟩

/-- Of each sender a world shows, over all its steps, what the server's handler was given, in
order. -/
theorem heard_of_run
    (ran : requests.foldlM play? ([], start settings) = some (entries, final))
    (sender : Identity) :
    (entries.flatMap (·.heard)).filter (·.sender = sender) =
      final.server.messages.filter (·.sender = sender) :=
  (shown_run ran).heard sender

/-- Two clients of a server that sends everything back, one of which leaves. -/
example :
    let requests : List Step :=
      [.server (.listen 0 none false), .connect "b" false, .connect "a" false,
        .sendText "b" "x", .sendText "a" "y", .close "b"]
    (requests.foldlM play? ([], start { serverHandler := echo })).map
        (fun played =>
          (played.1.flatMap (·.heard), played.2.server.core.roster.identities.value)) =
      some ([⟨.named "b", "x"⟩, ⟨.named "a", "y"⟩], [.named "a"]) := by
  decide +kernel

end World

end LineProtocol
