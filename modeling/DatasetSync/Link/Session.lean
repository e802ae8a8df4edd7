import DatasetSync.Link.Dispatch

/-!
# Sessions of a link

Opening and closing a session, promotion, polling and publishing.  A failing request to the
transport aborts the link, and an aborted link has to be disconnected before it can connect again;
nothing is tried twice.
-/

namespace DatasetSync.Link

variable {T α : Type} [Transport T]

/-- Call on the transport: its notes come first, then the record of the request. -/
def request (asked : Trail Note α) (call : α → Call) : Trail Effect α := do
  let answer ← asked.relabel .note
  Trail.mark (.call (call answer))
  return answer

/-- A request failed: the link is aborted, and its owner hears of it. -/
def abort (link : Link T) (fault : Fault) : Trail Effect (Outcome T α) := do
  link.report (.aborted fault)
  let link := { link with state := .aborted, lastError := some fault }
  link.emit (.linkStateChanged .aborted (some fault))
  return (link, .error (.transportAborted fault))

def prepare (link : Link T) : Link T :=
  { link with
    channels := link.channels.map Channel.prepare
    lastError := none
    connectedOnce := false }

def register (link : Link T) : Trail Effect (Outcome T Unit) := do
  let descriptors := link.channels.map Channel.descriptor
  let (transport, answer) ← request
    (Transport.register link.transport link.instanceName descriptors)
    (fun (_, answer) => .register link.instanceName answer.isOk)
  let link := { link with transport }
  match answer with
  | .ok session =>
      link.report (.registered descriptors.length session)
      return ({ link with session := some session }, .ok ())
  | .error fault => link.abort fault

/-- Open a session.  The link must be disconnected and have none. -/
def connect (link : Link T) : Trail Effect (Outcome T Unit) :=
  if link.state ≠ .disconnected ∨ link.isOpen then
    return (link, .error (.badState "connect" link.state))
  else
    link.prepare.register

def promote (link : Link T) (session : Session) : Trail Effect (Outcome T Unit) := do
  link.report .promotionRequested
  let (transport, answer) ← request (Transport.promote link.transport session)
    (fun (_, answer) => .promote session answer.isOk)
  let link := { link with transport }
  match answer with
  | .ok _ => return (link, .ok ())
  | .error fault => link.abort fault

/-- Ask for promotion.  The link must be connected with an open session. -/
def setOperational (link : Link T) : Trail Effect (Outcome T Unit) :=
  match link.session with
  | some session =>
      if link.state = .connected then link.promote session
      else return (link, .error (.badState "set operational" link.state))
  | none => return (link, .error (.badState "set operational" link.state))

def close (link : Link T) : Trail Effect (Link T) :=
  match link.session with
  | none => return link
  | some session => do
      let transport ← request (Transport.deregister link.transport session)
        (fun _ => .deregister session)
      return { link with transport, session := none }

/-- End everything that was begun; there must be something to end. -/
def disconnect (link : Link T) : Trail Effect (Outcome T Unit) := do
  if link.state = .disconnected ∧ !link.isOpen then
    return (link, .error (.badState "disconnect" link.state))
  else
    let link ← link.close
    link.report (.disconnected link.state)
    let link := { link with state := .disconnected, connectedOnce := false }.mapChannels
      Channel.reset
    link.emit (.linkStateChanged .disconnected none)
    return (link, .ok ())

/-- Fetch what came in and apply it.  Answers the number of events, or the first failure. -/
def process (link : Link T) : Trail Effect (Outcome T Nat) :=
  match link.session with
  | none => return (link, .ok 0)
  | some session => do
      let (transport, events) ← request (Transport.poll link.transport session)
        (fun (_, events) => .poll session events.length)
      let (link, failure) ← { link with transport }.dispatchAll events
      match failure with
      | some error => return (link, .error error)
      | none => return (link, .ok events.length)

def sendOn (link : Link T) (session : Session) (id : ChannelId) (channel : Channel)
    (payload : List UInt8) : Trail Effect (Outcome T Unit) := do
  let (transport, answer) ← request (Transport.send link.transport session id payload)
    (fun (_, answer) => .send session id payload answer.isOk)
  let link := { link with transport }
  match answer with
  | .error fault => link.abort fault
  | .ok _ =>
      match channel.recordPublished payload with
      | .ok channel => return (link.setChannel id channel, .ok ())
      | .error error => return (link, .error error)

def notConnected (link : Link T) : Error :=
  .notReady s!"link '{link.instanceName}' is {link.state.name}"

/-- Send a payload on a channel.  The channel and the link must both be connected. -/
def publish (link : Link T) (id : ChannelId) (payload : List UInt8) :
    Trail Effect (Outcome T Unit) :=
  match link.channel id with
  | .error error => return (link, .error error)
  | .ok channel =>
      match channel.checkPublish payload, link.session with
      | .error error, _ => return (link, .error error)
      | .ok _, some session =>
          if link.state.isConnected then link.sendOn session id channel payload
          else return (link, .error link.notConnected)
      | .ok _, none => return (link, .error link.notConnected)

end DatasetSync.Link
