import DatasetSync.Link.Effect

/-!
# Reports of a link

Every occasion on which a link writes a note, with its severity and wording.
-/

namespace DatasetSync

inductive LinkReport where
  | registered (channels : Nat) (session : Session)
  | promotionRequested
  | disconnected (before : ConnectionState)
  | received (event : InboundEvent)
  | failed (error : Error)
  | aborted (fault : Fault)
  | ignoredWhileAborted (state : ConnectionState)
  | ignoredMove (before after : ConnectionState)
  | lostConnection
  | moved (before after : ConnectionState)
  | channelPromotionIgnored (channel : String) (state : ConnectionState)
  | channelMoveRefused (channel : String) (error : Error)
  | channelAborted (channel : String) (fault : Option Fault)
  | channelMoved (channel : String) (state : ConnectionState)
  | updateDropped (channel : String) (state : ConnectionState)
  | overflowed (channel : String) (dropped : Nat)
  deriving DecidableEq, Repr

namespace LinkReport

def severity : LinkReport → Severity
  | .received _ => .trace
  | .promotionRequested | .channelMoved .. | .updateDropped .. => .debug
  | .registered .. | .disconnected _ | .moved .. => .info
  | .failed _ | .ignoredWhileAborted _ | .ignoredMove .. | .lostConnection
  | .channelPromotionIgnored .. | .channelMoveRefused .. | .overflowed .. => .warn
  | .aborted _ | .channelAborted .. => .error

def text (link : String) : LinkReport → String
  | .registered channels session =>
      s!"Link {link} registered {channels} channel(s) as {session.label}"
  | .promotionRequested => s!"Link {link} requesting operational"
  | .disconnected before => s!"Link {link} disconnected (was {before.name})"
  | .received event => s!"Link {link} event: {event.inspect}"
  | .failed error => s!"Link {link}: {error.message}"
  | .aborted fault => s!"Link {link} aborted: {fault.message}"
  | .ignoredWhileAborted state => s!"Link {link} ignoring {state.name} while aborted"
  | .ignoredMove before after =>
      s!"Link {link} ignoring transition {before.name} -> {after.name}"
  | .lostConnection => s!"Link {link} lost its connection"
  | .moved before after => s!"Link {link} {before.name} -> {after.name}"
  | .channelPromotionIgnored channel state =>
      s!"Link {link} ignoring operational for channel '{channel}' while link is {state.name}"
  | .channelMoveRefused channel error => s!"Link {link} channel '{channel}': {error.message}"
  | .channelAborted channel fault =>
      let cause := Inspect.option (fault.map Fault.inspect)
      s!"Link {link} channel '{channel}' aborted: {cause}"
  | .channelMoved channel state => s!"Link {link} channel '{channel}' -> {state.name}"
  | .updateDropped channel state =>
      s!"Link {link} dropping update for channel '{channel}' while {state.name}"
  | .overflowed channel dropped =>
      s!"Link {link} channel '{channel}' buffer overflow ({dropped} dropped)"

def note (link : String) (report : LinkReport) : Note where
  severity := report.severity
  source := .link
  text := report.text link

end LinkReport

end DatasetSync
