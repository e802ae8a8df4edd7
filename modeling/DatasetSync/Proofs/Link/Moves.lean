import DatasetSync.Proofs.Link.Mirror

/-!
# The moves of a link

Where a link goes while it is asked for promotion, polled and asked to send, one move after the
other, as its owner hears of them.  Between connected and disconnected it may go back and forth any
number of times, even in one batch of events; an abort is the end of it.  Whether it was ever
connected in its session can be read off the moves.
-/

namespace DatasetSync

namespace ConnectionState

/-- The moves of a link: a connection is made, promoted, demoted and dropped, and it may be aborted
at any time. -/
inductive Moves : ConnectionState → ConnectionState → Prop where
  | made : Moves .disconnected .connected
  | promoted : Moves .connected .operational
  | demoted : Moves .operational .connected
  | dropped {state : ConnectionState} (connected : state.isConnected = true) :
      Moves state .disconnected
  | aborted (state : ConnectionState) : Moves state .aborted

/-- A move leaves a link connected only if it was, or makes the connection. -/
theorem Moves.connected_before {first next : ConnectionState} (moves : Moves first next)
    (up : next.isConnected = true) : first.isConnected = true ∨ next = .connected := by
  cases moves with
  | made => exact .inr rfl
  | promoted => exact .inl rfl
  | demoted => exact .inl rfl
  | dropped connected => cases up
  | aborted => cases up

/-- Moves in order, by the states they lead to. -/
inductive Path : ConnectionState → List ConnectionState → ConnectionState → Prop where
  | done (state : ConnectionState) : Path state [] state
  | move {first next last : ConnectionState} {rest : List ConnectionState}
      (moves : Moves first next) (more : Path next rest last) : Path first (next :: rest) last

namespace Path

variable {first middle last : ConnectionState} {early late states : List ConnectionState}

theorem trans (before : Path first early middle) (after : Path middle late last) :
    Path first (early ++ late) last := by
  induction before with
  | done state => exact after
  | move moves more ih => exact .move moves (ih after)

theorem single (moves : Moves first last) : Path first [last] last :=
  .move moves (.done last)

theorem eq_of_nil (path : Path first [] last) : last = first := by
  cases path
  rfl

/-- A path ends where its last move leads. -/
theorem getLast?_eq (path : Path first states last) (moved : states ≠ []) :
    states.getLast? = some last := by
  induction path with
  | done state => exact absurd rfl moved
  | @move first next last rest moves more ih =>
      cases rest with
      | nil =>
          cases more
          rfl
      | cons state others =>
          rw [List.getLast?_cons_cons]
          exact ih (List.cons_ne_nil state others)

/-- Nothing leads out of an abort. -/
theorem from_aborted (path : Path first states last) (start : first = .aborted) :
    last = .aborted := by
  induction path with
  | done state => exact start
  | move moves more ih =>
      subst start
      cases moves with
      | aborted => exact ih rfl
      | dropped connected => cases connected

theorem aborted_of_mem (path : Path first states last) (inside : .aborted ∈ states) :
    last = .aborted := by
  induction path with
  | done state => cases inside
  | @move first next last rest moves more ih =>
      rcases List.mem_cons.mp inside with rfl | later
      · exact more.from_aborted rfl
      · exact ih later

/-- What was dropped had been connected. -/
theorem connected_of_dropped (path : Path first states last) (inside : .disconnected ∈ states) :
    first.isConnected = true ∨ .connected ∈ states := by
  induction path with
  | done state => cases inside
  | @move first next last rest moves more ih =>
      rcases List.mem_cons.mp inside with rfl | later
      · cases moves with
        | dropped connected => exact .inl connected
      · rcases ih later with up | there
        · rcases moves.connected_before up with before | now
          · exact .inl before
          · exact .inr (List.mem_cons.mpr (.inl now.symm))
        · exact .inr (List.mem_cons_of_mem _ there)

end Path

end ConnectionState

/-! ## What a trail tells about the link -/

def News.linkState? : News → Option ConnectionState
  | .event (.linkStateChanged state _) _ => some state
  | _ => none

namespace Trail

variable {α β : Type}

def linkStates (trail : Trail Effect α) : List ConnectionState :=
  trail.news.filterMap News.linkState?

@[simp] theorem linkStates_pure (value : α) : (pure value : Trail Effect α).linkStates = [] := rfl

@[simp] theorem linkStates_bind (first : Trail Effect α) (next : α → Trail Effect β) :
    (first >>= next).linkStates = first.linkStates ++ (next first.value).linkStates := by
  rw [linkStates, news_bind, List.filterMap_append]
  rfl

end Trail

namespace Link

variable {T α : Type}

@[simp] theorem linkStates_report (link : Link T) (occasion : LinkReport) :
    (link.report occasion).linkStates = [] := rfl

@[simp] theorem linkStates_request (asked : Trail Note α) (call : α → Call) :
    (request asked call).linkStates = [] := by
  simp [Trail.linkStates]

/-- A link goes through the states that are told, and remembers whether it was connected. -/
structure Goes (link after : Link T) (told : List ConnectionState) : Prop where
  path : link.state.Path told after.state
  informed : link.Informed → after.Informed
  connectedOnce : link.Informed →
    (after.connectedOnce = true ↔ link.connectedOnce = true ∨ .connected ∈ told)

theorem Goes.trans {link middle after : Link T} {early late : List ConnectionState}
    (first : link.Goes middle early) (second : middle.Goes after late) :
    link.Goes after (early ++ late) := by
  refine ⟨first.path.trans second.path, second.informed ∘ first.informed, fun informed => ?_⟩
  rw [second.connectedOnce (first.informed informed), first.connectedOnce informed, or_assoc,
    List.mem_append]

/-- Nothing is told, and the link has not moved. -/
theorem goes_nowhere {link after : Link T} (state : after.state = link.state)
    (connectedOnce : after.connectedOnce = link.connectedOnce) : link.Goes after [] := by
  refine ⟨?_, fun informed => ?_, fun _ => ?_⟩
  · rw [state]
    exact .done _
  · rw [Informed, state, connectedOnce]
    exact informed
  · rw [connectedOnce]
    simp

/-- The link makes one move, and remembers a connection that it makes. -/
theorem goes_on {link after : Link T} (moves : link.state.Moves after.state)
    (connectedOnce : link.Informed →
      (after.connectedOnce = true ↔ link.connectedOnce = true ∨ after.state = .connected)) :
    link.Goes after [after.state] := by
  refine ⟨.single moves, fun informed up => ?_, fun informed => ?_⟩
  · rw [connectedOnce informed]
    exact (moves.connected_before up).imp informed id
  · rw [connectedOnce informed, List.mem_singleton, eq_comm (a := after.state)]

theorem goes_aborted {link after : Link T} (state : after.state = .aborted)
    (connectedOnce : after.connectedOnce = link.connectedOnce) : link.Goes after [.aborted] := by
  rw [← state]
  refine goes_on ?_ fun _ => ?_
  · rw [state]
    exact .aborted _
  · rw [connectedOnce, state]
    simp

/-- The link is aborted, or was connected and is not any more. -/
def Down (link : Link T) : Prop :=
  link.state = .aborted ∨ link.connectedOnce = true ∧ link.state = .disconnected

/-- A link that was not down is down if an abort was told, or if a drop was told last. -/
theorem Goes.down_iff {link after : Link T} {told : List ConnectionState}
    (goes : link.Goes after told) (informed : link.Informed) (up : ¬ link.Down) :
    after.Down ↔ .aborted ∈ told ∨ told.getLast? = some .disconnected := by
  have moved (down : after.Down) : told ≠ [] := by
    rintro rfl
    have known := goes.connectedOnce informed
    simp only [List.not_mem_nil, or_false] at known
    rw [Down, goes.path.eq_of_nil, known] at down
    exact up down
  constructor
  · intro down
    have last := goes.path.getLast?_eq (moved down)
    rcases down with aborted | ⟨_, dropped⟩
    · rw [aborted] at last
      exact .inl (List.mem_of_getLast? last)
    · rw [dropped] at last
      exact .inr last
  · rintro (inside | last)
    · exact .inl (goes.path.aborted_of_mem inside)
    · have inside : .disconnected ∈ told := List.mem_of_getLast? last
      have ends := (goes.path.getLast?_eq (List.ne_nil_of_mem inside)).symm.trans last
      refine .inr ⟨(goes.connectedOnce informed).mpr ?_, Option.some.inj ends⟩
      exact (goes.path.connected_of_dropped inside).imp informed id

/-! ## Inbound events -/

theorem followLinkState_goes (link : Link T) (announced : ConnectionState) (fault : Option Fault) :
    link.Goes (link.followLinkState announced fault).value
      (link.followLinkState announced fault).linkStates := by
  -- A connection that is promoted or demoted was made before, and the link knows of it.
  have kept (after : Link T) (moves : link.state.Moves after.state)
      (up : link.state.isConnected = true) (same : after.connectedOnce = link.connectedOnce) :
      link.Goes after [after.state] := by
    refine goes_on moves fun informed => ?_
    rw [same, informed up]
    simp
  unfold followLinkState
  cases state : link.state with
  | disconnected =>
      cases announced with
      | disconnected => exact goes_nowhere rfl rfl
      | connected =>
          refine goes_on ?_ fun _ => ?_
          · rw [state]
            exact .made
          · exact ⟨fun _ => .inr rfl, fun _ => rfl⟩
      | operational => exact goes_nowhere rfl rfl
      | aborted => exact goes_aborted rfl rfl
  | connected =>
      have up : link.state.isConnected = true := by
        rw [state]
        rfl
      have promotes : link.state.Moves .operational := by
        rw [state]
        exact .promoted
      cases announced with
      | disconnected => exact kept _ (.dropped up) up rfl
      | connected => exact goes_nowhere rfl rfl
      | operational => exact kept _ promotes up rfl
      | aborted => exact goes_aborted rfl rfl
  | operational =>
      have up : link.state.isConnected = true := by
        rw [state]
        rfl
      have demotes : link.state.Moves .connected := by
        rw [state]
        exact .demoted
      cases announced with
      | disconnected => exact kept _ (.dropped up) up rfl
      | connected => exact kept _ demotes up rfl
      | operational => exact goes_nowhere rfl rfl
      | aborted => exact goes_aborted rfl rfl
  | aborted =>
      cases announced with
      | aborted => exact goes_aborted rfl rfl
      | disconnected => exact goes_nowhere rfl rfl
      | connected => exact goes_nowhere rfl rfl
      | operational => exact goes_nowhere rfl rfl

/-- The owner hears nothing about the link from what a channel does. -/
theorem followChannelState_unheard (link : Link T) (id : ChannelId) (channel : Channel)
    (announced : ConnectionState) (fault : Option Fault) :
    (link.followChannelState id channel announced fault).linkStates = [] := by
  have settled (channel : Channel) : (link.settleChannel id channel fault).linkStates = [] := by
    unfold settleChannel
    split <;> rfl
  unfold followChannelState followPromotion
  split
  · split
    · rfl
    · cases channel.setOperational with
      | ok promoted => exact settled promoted
      | error error => rfl
  · cases channel.transition announced fault with
    | error error => rfl
    | ok change =>
        cases change with
        | none => rfl
        | some moved => exact settled moved

theorem onChannel_unheard {link : Link T} {id : ChannelId}
    {act : Channel → Trail Effect (Outcome T Unit)}
    (unheard : ∀ channel, (act channel).linkStates = []) :
    (link.onChannel id act).linkStates = [] := by
  unfold onChannel
  cases link.channels[id]? with
  | none => rfl
  | some channel => exact unheard channel

section Requests

variable [Transport T]

theorem receive_unheard (link : Link T) (id : ChannelId) (channel : Channel)
    (payload : List UInt8) (sent : Nettime) :
    (link.receive id channel payload sent).linkStates = [] := by
  unfold receive
  split
  · rfl
  · rcases channel.receive payload sent link.nettime with ⟨after, error | reception⟩
    · rfl
    · cases reception <;> rfl

theorem dispatch_unheard {link : Link T} {event : InboundEvent} {id : ChannelId}
    (concerned : event.channel? = some id) : (link.dispatch event).linkStates = [] := by
  unfold dispatch
  rw [Trail.linkStates_bind, linkStates_report, List.nil_append]
  cases event with
  | linkStateChanged announced fault => cases concerned
  | channelStateChanged target announced fault =>
      refine onChannel_unheard fun channel => ?_
      rw [Trail.linkStates_bind, followChannelState_unheard]
      rfl
  | channelUpdated target payload sent =>
      exact onChannel_unheard fun channel => link.receive_unheard target channel payload sent
  | publishAcknowledged target buffer => exact onChannel_unheard fun channel => rfl
  | deliveryAcknowledged target buffer => exact onChannel_unheard fun channel => rfl

theorem dispatch_goes (link : Link T) (event : InboundEvent) :
    link.Goes (link.dispatch event).value.1 (link.dispatch event).linkStates := by
  cases concerned : event.channel? with
  | none =>
      obtain ⟨announced, fault, rfl⟩ := InboundEvent.eq_linkStateChanged concerned
      unfold dispatch
      rw [Trail.linkStates_bind, linkStates_report, List.nil_append, Trail.linkStates_bind,
        Trail.linkStates_pure, List.append_nil]
      exact link.followLinkState_goes announced fault
  | some target =>
      rw [dispatch_unheard concerned, dispatch_frame concerned]
      exact goes_nowhere rfl rfl

/-- A batch of events moves the link as its events do, one after the other. -/
theorem dispatchAll_goes (link : Link T) (events : List InboundEvent) :
    link.Goes (link.dispatchAll events).value.1 (link.dispatchAll events).linkStates := by
  induction events generalizing link with
  | nil => exact goes_nowhere rfl rfl
  | cons event rest ih =>
      have both := (link.dispatch_goes event).trans (ih (link.dispatch event).value.1)
      rw [dispatchAll, Trail.value_bind, Trail.linkStates_bind]
      rcases answered : (link.dispatch event).value with ⟨after, answer⟩
      rw [answered] at both
      cases answer with
      | ok done => exact both
      | error error =>
          rw [Trail.linkStates_bind, linkStates_report, Trail.linkStates_bind,
            Trail.linkStates_pure, List.append_nil]
          exact both

/-! ## Requests -/

theorem process_goes (link : Link T) :
    link.Goes link.process.value.1 link.process.linkStates := by
  unfold process
  cases opened : link.session with
  | none => exact goes_nowhere rfl rfl
  | some session =>
      simp only [Trail.value_bind, Trail.linkStates_bind, linkStates_request, value_request,
        List.nil_append]
      generalize (Transport.poll link.transport session).value = polled
      obtain ⟨transport, events⟩ := polled
      have goes := dispatchAll_goes { link with transport } events
      rw [opened] at goes
      split <;>
        · rw [Trail.linkStates_pure, List.append_nil]
          exact ⟨goes.path, goes.informed, goes.connectedOnce⟩

theorem setOperational_goes (link : Link T) :
    link.Goes link.setOperational.value.1 link.setOperational.linkStates := by
  unfold setOperational
  split
  · rename_i session opened
    split
    · unfold promote
      simp only [Trail.value_bind, Trail.linkStates_bind, linkStates_report, linkStates_request,
        value_request, List.nil_append]
      rcases (Transport.promote link.transport session).value with ⟨transport, fault | granted⟩
      · exact goes_aborted rfl rfl
      · exact goes_nowhere rfl rfl
    · exact goes_nowhere rfl rfl
  · exact goes_nowhere rfl rfl

theorem publish_goes (link : Link T) (id : ChannelId) (payload : List UInt8) :
    link.Goes (link.publish id payload).value.1 (link.publish id payload).linkStates := by
  unfold publish channel
  cases found : link.channels[id]? with
  | none => exact goes_nowhere rfl rfl
  | some channel =>
      dsimp only
      cases checked : channel.checkPublish payload with
      | error error => exact goes_nowhere rfl rfl
      | ok done =>
          cases opened : link.session with
          | none => exact goes_nowhere rfl rfl
          | some session =>
              dsimp only
              split
              · unfold sendOn
                simp only [Trail.value_bind, Trail.linkStates_bind, linkStates_request,
                  value_request, List.nil_append]
                rcases (Transport.send link.transport session id payload).value with
                  ⟨transport, fault | granted⟩
                · exact goes_aborted rfl rfl
                · cases channel.recordPublished payload with
                  | ok after => exact goes_nowhere rfl rfl
                  | error error => exact goes_nowhere rfl rfl
              · exact goes_nowhere rfl rfl

end Requests

end Link

end DatasetSync
