import DatasetSync.Link

/-!
# Inbound events

How a link follows what its transport reports.  State changes first, then the owner hears of it.
Promotion goes from the top down: a channel becomes operational together with its link or after it,
and an aborted link follows nothing.
-/

namespace DatasetSync.Link

variable {T : Type}

def abortedByTransport : Fault :=
  ⟨.system, "link aborted by transport"⟩

def promoteChannel (channel : Channel) : Channel :=
  if channel.state = .connected then { channel with state := .operational } else channel

def demoteChannel (channel : Channel) : Channel :=
  if channel.state = .operational then { channel with state := .connected } else channel

def followAbort (link : Link T) (fault : Option Fault) : Trail Effect (Link T) := do
  let cause := fault.getD abortedByTransport
  link.report (.aborted cause)
  let link := { link with state := .aborted, lastError := some cause }
  link.emit (.linkStateChanged .aborted fault)
  return link

/-- The link has moved: remember the fault that came with it and tell the owner. -/
def settle (link : Link T) (before : ConnectionState) (fault : Option Fault) :
    Trail Effect (Link T) := do
  link.report (.moved before link.state)
  let link := { link with lastError := fault <|> link.lastError }
  link.emit (.linkStateChanged link.state fault)
  return link

/-- The connection of the session is gone, and with it that of every channel. -/
def dropConnection (link : Link T) (fault : Option Fault) : Trail Effect (Link T) := do
  link.report .lostConnection
  ({ link with state := .disconnected }.mapChannels Channel.reset).settle link.state fault

def followLinkState (link : Link T) (state : ConnectionState) (fault : Option Fault) :
    Trail Effect (Link T) :=
  match link.state, state with
  | _, .aborted => link.followAbort fault
  | .aborted, _ => do
      link.report (.ignoredWhileAborted state)
      return link
  | .disconnected, .connected =>
      { link with state := .connected, connectedOnce := true }.settle .disconnected fault
  | .operational, .connected =>
      ({ link with state := .connected }.mapChannels demoteChannel).settle .operational fault
  | .connected, .operational =>
      ({ link with state := .operational }.mapChannels promoteChannel).settle .connected fault
  | .connected, .disconnected => link.dropConnection fault
  | .operational, .disconnected => link.dropConnection fault
  | .disconnected, .operational => do
      link.report (.ignoredMove .disconnected .operational)
      return link
  | .disconnected, .disconnected => return link
  | .connected, .connected => return link
  | .operational, .operational => return link

def settleChannel (link : Link T) (id : ChannelId) (channel : Channel) (fault : Option Fault) :
    Trail Effect (Link T) := do
  if channel.state = .aborted then
    link.report (.channelAborted channel.name channel.lastError)
  else
    link.report (.channelMoved channel.name channel.state)
  let link := link.setChannel id channel
  link.emit (.channelStateChanged id channel.state fault)
  return link

/-- Follow the promotion of one channel, which its link must have had before. -/
def followPromotion (link : Link T) (id : ChannelId) (channel : Channel) (fault : Option Fault) :
    Trail Effect (Link T) :=
  if link.state ≠ .operational then do
    link.report (.channelPromotionIgnored channel.name link.state)
    return link
  else
    match channel.setOperational with
    | .ok channel => link.settleChannel id channel fault
    | .error _ => return link

def followChannelState (link : Link T) (id : ChannelId) (channel : Channel)
    (state : ConnectionState) (fault : Option Fault) : Trail Effect (Link T) :=
  if state = .operational then
    link.followPromotion id channel fault
  else
    match channel.transition state fault with
    | .ok (some channel) => link.settleChannel id channel fault
    | .ok none => return link
    | .error error => do
        link.report (.channelMoveRefused channel.name error)
        return link

def receive [Transport T] (link : Link T) (id : ChannelId) (channel : Channel)
    (payload : List UInt8) (sent : Nettime) : Trail Effect (Outcome T Unit) :=
  if !channel.state.isConnected then do
    link.report (.updateDropped channel.name channel.state)
    return (link, .ok ())
  else
    match channel.receive payload sent link.nettime with
    | (channel, .error error) => return (link.setChannel id channel, .error error)
    | (channel, .ok (.accepted latency)) => do
        let link := link.setChannel id channel
        link.emit (.channelUpdated id latency)
        return (link, .ok ())
    | (channel, .ok (.overflowed dropped)) => do
        link.report (.overflowed channel.name dropped)
        let link := link.setChannel id channel
        link.emit (.bufferOverflow id dropped)
        return (link, .ok ())

/-- Let an event act on the channel it is about; there must be one. -/
def onChannel (link : Link T) (id : ChannelId) (act : Channel → Trail Effect (Outcome T Unit)) :
    Trail Effect (Outcome T Unit) :=
  match link.channels[id]? with
  | some channel => act channel
  | none => return (link, .error (noSuchChannel id))

def dispatch [Transport T] (link : Link T) (event : InboundEvent) :
    Trail Effect (Outcome T Unit) := do
  link.report (.received event)
  match event with
  | .linkStateChanged state fault =>
      let link ← link.followLinkState state fault
      return (link, .ok ())
  | .channelStateChanged id state fault =>
      link.onChannel id fun channel => do
        let link ← link.followChannelState id channel state fault
        return (link, .ok ())
  | .channelUpdated id payload sent =>
      link.onChannel id fun channel => link.receive id channel payload sent
  | .publishAcknowledged id buffer =>
      link.onChannel id fun channel => do
        let link := link.setChannel id (channel.recordSendBuffer buffer false)
        link.emit (.channelPublished id buffer)
        return (link, .ok ())
  | .deliveryAcknowledged id buffer =>
      link.onChannel id fun channel => do
        let link := link.setChannel id (channel.recordSendBuffer buffer true)
        link.emit (.channelDelivered id buffer)
        return (link, .ok ())

/-- Apply events in order.  A failing event does not stop the others; the first failure is kept. -/
def dispatchAll [Transport T] (link : Link T) : List InboundEvent →
    Trail Effect (Link T × Option Error)
  | [] => return (link, none)
  | event :: rest => do
      let (link, answer) ← link.dispatch event
      match answer with
      | .ok _ => link.dispatchAll rest
      | .error error =>
          link.report (.failed error)
          let (link, _) ← link.dispatchAll rest
          return (link, some error)

end DatasetSync.Link
