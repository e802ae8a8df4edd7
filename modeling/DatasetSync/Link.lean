import DatasetSync.Link.Report

/-!
# Links

A link joins the owner's channels to a peer over a transport.  It is advanced by explicit calls that
never wait.  This module has the link itself and the table of its channels; the table is open for
new channels as long as no session is.
-/

namespace DatasetSync

/-- A link over a transport of type `T`. -/
structure Link (T : Type) where
  instanceName : String
  aliasName : Option String
  state : ConnectionState
  lastError : Option Fault
  channels : List Channel
  transport : T
  session : Option Session
  /-- The current session was connected at some time. -/
  connectedOnce : Bool
  deriving DecidableEq, Repr

namespace Link

variable {T α : Type}

abbrev Outcome (T α : Type) := Link T × Except Error α

def new (instanceName : String) (transport : T) : Link T where
  instanceName
  aliasName := none
  state := .disconnected
  lastError := none
  channels := []
  transport
  session := none
  connectedOnce := false

def isOpen (link : Link T) : Bool :=
  link.session.isSome

/-- The open session was connected and no longer is. -/
def lostConnection (link : Link T) : Bool :=
  link.isOpen && link.connectedOnce && link.state == .disconnected

def noSuchName (name : String) : Error :=
  .notFound s!"channel '{name}'"

def noSuchChannel (id : ChannelId) : Error :=
  .notFound s!"channel {id.label}"

def channelId (link : Link T) (name : String) : Except Error ChannelId :=
  match link.channels.find? (·.name == name) with
  | some channel => .ok channel.id
  | none => .error (noSuchName name)

def channel (link : Link T) (id : ChannelId) : Except Error Channel :=
  match link.channels[id]? with
  | some channel => .ok channel
  | none => .error (noSuchChannel id)

def setChannel (link : Link T) (id : ChannelId) (channel : Channel) : Link T :=
  { link with channels := link.channels.set id channel }

def mapChannels (link : Link T) (change : Channel → Channel) : Link T :=
  { link with channels := link.channels.map change }

/-- Add a channel at the end of the table. -/
def addChannel (link : Link T) (spec : ChannelSpec) : Link T × Except Obstacle ChannelId :=
  if link.isOpen then
    (link, .error (.refused (.badState "add channel" link.state)))
  else if link.channels.any (·.name == spec.name) then
    (link, .error (.refused
      (.config s!"channel '{spec.name}' already exists in link '{link.instanceName}'")))
  else
    match Channel.new link.channels.length spec with
    | .error obstacle => (link, .error obstacle)
    | .ok channel =>
        ({ link with channels := link.channels ++ [channel] }, .ok link.channels.length)

/-- Add channels in order, up to the first that cannot be added. -/
def addChannels (link : Link T) : List ChannelSpec → Except Obstacle (Link T)
  | [] => .ok link
  | spec :: rest =>
      match link.addChannel spec with
      | (_, .error obstacle) => .error obstacle
      | (link, .ok _) => link.addChannels rest

/-- Exchange the oldest sample that waits on a channel for `destination`. -/
def popInto (link : Link T) (id : ChannelId) (destination : Sample) :
    Link T × Sample × Except Error Unit :=
  match link.channel id with
  | .error error => (link, destination, .error error)
  | .ok channel =>
      let (channel, sample, answer) := channel.popInto destination
      (link.setChannel id channel, sample, answer)

def pop (link : Link T) (id : ChannelId) : Outcome T Sample :=
  let (link, sample, answer) := link.popInto id default
  (link, answer.map fun _ => sample)

def takeUpdated (link : Link T) (id : ChannelId) : Outcome T Bool :=
  match link.channel id with
  | .error error => (link, .error error)
  | .ok channel =>
      let (updated, channel) := channel.takeUpdated
      (link.setChannel id channel, .ok updated)

def nettime [Transport T] (link : Link T) : Nettime :=
  Transport.nettime link.transport

def report (link : Link T) (occasion : LinkReport) : Trail Effect Unit :=
  Trail.mark (.note (occasion.note link.instanceName))

def overview (link : Link T) : Overview :=
  ⟨link.state, link.channels.map Channel.state⟩

/-- Tell the owner about an event, as the link now stands. -/
def emit (link : Link T) (event : LinkEvent) : Trail Effect Unit :=
  Trail.mark (.event event link.overview)

def inspect (link : Link T) : String :=
  Inspect.openRecord "Link"
    [("instance_name", Inspect.quoted link.instanceName),
      ("alias", Inspect.option (link.aliasName.map Inspect.quoted)),
      ("state", link.state.name),
      ("last_error", Inspect.option (link.lastError.map Fault.inspect)),
      ("channels", Inspect.list (link.channels.map Channel.inspect)),
      ("session", Inspect.option (link.session.map Session.inspect))]

end Link

end DatasetSync
