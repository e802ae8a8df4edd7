import DatasetSync.Link

/-!
# Process images

A process image is the owner's own copy of all datasets of a link.  It has one value for each
channel the link had when the image was made.
-/

namespace DatasetSync

/-- The owner's copy of the datasets of a link. -/
structure Image where
  values : List Dataset
  deriving DecidableEq, Repr, Inhabited

namespace Image

def ofChannels (channels : List Channel) : Image :=
  ⟨channels.map fun channel => channel.value.clear⟩

def size (image : Image) : Nat :=
  image.values.length

def isEmpty (image : Image) : Bool :=
  image.values.isEmpty

def get (image : Image) (id : ChannelId) : Except Error (List UInt8) :=
  match image.values[id]? with
  | some value => .ok value.bytes
  | none => .error (.notFound s!"channel {id.label}")

def set (image : Image) (id : ChannelId) (payload : List UInt8) : Except Error Image :=
  match image.values[id]? with
  | some value => (value.set payload).map fun value => ⟨image.values.set id value⟩
  | none => .error (.notFound s!"channel {id.label}")

/-- Replace the value for a channel, if there is one and the payload fits. -/
def trySet (image : Image) (id : ChannelId) (payload : List UInt8) : Image :=
  match image.set id payload with
  | .ok image => image
  | .error _ => image

end Image

end DatasetSync
