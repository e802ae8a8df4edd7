/-!
# Connection states and directions

Links and channels share one lifecycle.  A channel also has a direction, which says whether its
dataset is sent, received or both.
-/

namespace DatasetSync

/-- Where a link or a channel stands in its lifecycle. -/
inductive ConnectionState where
  | disconnected
  | connected
  | operational
  | aborted
  deriving DecidableEq, Repr, Inhabited

namespace ConnectionState

/-- Data may flow: the state is `connected` or `operational`. -/
def isConnected : ConnectionState → Bool
  | .connected | .operational => true
  | .disconnected | .aborted => false

/-- The name shown to people and written to documents. -/
def name : ConnectionState → String
  | .disconnected => "Disconnected"
  | .connected => "Connected"
  | .operational => "Operational"
  | .aborted => "Aborted"

def all : List ConnectionState :=
  [.disconnected, .connected, .operational, .aborted]

def ofName? (text : String) : Option ConnectionState :=
  all.find? (·.name == text)

instance : ToString ConnectionState := ⟨name⟩

end ConnectionState

/-- Which way a channel's dataset travels. -/
inductive Direction where
  | publish
  | subscribe
  | both
  deriving DecidableEq, Repr, Inhabited

namespace Direction

def canPublish : Direction → Bool
  | .publish | .both => true
  | .subscribe => false

def canSubscribe : Direction → Bool
  | .subscribe | .both => true
  | .publish => false

def keyword : Direction → String
  | .publish => "publish"
  | .subscribe => "subscribe"
  | .both => "both"

def wording : Direction → String
  | .publish => "publish"
  | .subscribe => "subscribe"
  | .both => "publish+subscribe"

def name : Direction → String
  | .publish => "Publish"
  | .subscribe => "Subscribe"
  | .both => "Both"

def all : List Direction :=
  [.publish, .subscribe, .both]

def ofKeyword? (text : String) : Option Direction :=
  all.find? (·.keyword == text)

end Direction

end DatasetSync
