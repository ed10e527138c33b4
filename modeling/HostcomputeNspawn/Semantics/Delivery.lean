import HostcomputeNspawn.Semantics.Transition

/-!
# Waiting on a monotone set of deliveries

The abstract purpose of a latch: messages are delivered at any time, and one client, in brackets of
a lock followed by a cancel or an await, waits until a message of a supported kind has been
delivered.  The only state besides the position of the client is the set of the supported messages
delivered so far, and nothing ever leaves it.
-/

namespace Delivery

variable {τ : Type*}

/-- Where the client is. -/
inductive Phase (τ : Type*)
  | outside
  | locking
  | inside
  | cancelling
  | awaiting (message : τ)

/-- What an observer sees: the calls and returns of the client, and the deliveries. -/
inductive Event (τ : Type*)
  | lockCall
  | lockReturn
  | cancelCall
  | cancelReturn
  | awaitCall (message : τ)
  | awaitReturn (message : τ)
  | deliver (message : τ)

@[ext]
structure State (τ : Type*) where
  delivered : Set τ
  client : Phase τ

/-- Nothing has been delivered and the client is outside. -/
def State.init : State τ := ⟨∅, .outside⟩

/-- A delivery adds the message if it is supported, and changes nothing otherwise. -/
def deliver (supported D : Set τ) (message : τ) : Set τ := D ∪ {message} ∩ supported

inductive Step (supported : Set τ) : State τ → Event τ → State τ → Prop
  | lockCall (D : Set τ) : Step supported ⟨D, .outside⟩ .lockCall ⟨D, .locking⟩
  | lockReturn (D : Set τ) : Step supported ⟨D, .locking⟩ .lockReturn ⟨D, .inside⟩
  | cancelCall (D : Set τ) : Step supported ⟨D, .inside⟩ .cancelCall ⟨D, .cancelling⟩
  | cancelReturn (D : Set τ) : Step supported ⟨D, .cancelling⟩ .cancelReturn ⟨D, .outside⟩
  | awaitCall (D : Set τ) (message : τ) (hsupported : message ∈ supported) :
      Step supported ⟨D, .inside⟩ (.awaitCall message) ⟨D, .awaiting message⟩
  | awaitReturn (D : Set τ) (message : τ) (hdelivered : message ∈ D) :
      Step supported ⟨D, .awaiting message⟩ (.awaitReturn message) ⟨D, .outside⟩
  | deliver (D : Set τ) (client : Phase τ) (message : τ) :
      Step supported ⟨D, client⟩ (.deliver message) ⟨deliver supported D message, client⟩

/-- The machine that waits on the set of deliveries. -/
def machine (supported : Set τ) : Transition.System (State τ) (Event τ) where
  step := Step supported

end Delivery
