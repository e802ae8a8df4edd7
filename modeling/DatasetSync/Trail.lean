/-!
# Trails

A trail is a value together with the marks left while it was computed, oldest first.  Marks never
feed back into the value, so the two sides can be read apart: the value of a sequence is the value
of its last step, and its marks are the marks of its steps in order.
-/

namespace DatasetSync

/-- A value and the marks left on the way to it, oldest first. -/
structure Trail (ε α : Type) where
  value : α
  marks : List ε

namespace Trail

variable {ε δ α β : Type}

def mark (entry : ε) : Trail ε Unit :=
  ⟨(), [entry]⟩

def relabel (label : ε → δ) (trail : Trail ε α) : Trail δ α :=
  ⟨trail.value, trail.marks.map label⟩

/-- The same value with only the marks that `pick` wants, relabelled. -/
def select (pick : ε → Option δ) (trail : Trail ε α) : Trail δ α :=
  ⟨trail.value, trail.marks.filterMap pick⟩

instance : Monad (Trail ε) where
  pure value := ⟨value, []⟩
  bind first next := ⟨(next first.value).value, first.marks ++ (next first.value).marks⟩

@[simp] theorem value_pure (value : α) : (pure value : Trail ε α).value = value := rfl

@[simp] theorem marks_pure (value : α) : (pure value : Trail ε α).marks = [] := rfl

@[simp] theorem value_bind (first : Trail ε α) (next : α → Trail ε β) :
    (first >>= next).value = (next first.value).value := rfl

@[simp] theorem marks_bind (first : Trail ε α) (next : α → Trail ε β) :
    (first >>= next).marks = first.marks ++ (next first.value).marks := rfl

@[simp] theorem value_mark (entry : ε) : (mark entry).value = () := rfl

@[simp] theorem marks_mark (entry : ε) : (mark entry).marks = [entry] := rfl

@[simp] theorem value_relabel (label : ε → δ) (trail : Trail ε α) :
    (trail.relabel label).value = trail.value := rfl

@[simp] theorem marks_relabel (label : ε → δ) (trail : Trail ε α) :
    (trail.relabel label).marks = trail.marks.map label := rfl

@[simp] theorem value_select (pick : ε → Option δ) (trail : Trail ε α) :
    (trail.select pick).value = trail.value := rfl

@[simp] theorem marks_select (pick : ε → Option δ) (trail : Trail ε α) :
    (trail.select pick).marks = trail.marks.filterMap pick := rfl

end Trail

end DatasetSync
