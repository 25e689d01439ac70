import Instrument.Queue
import Instrument.Text.Quoted

/-!
Bounded queues between the interrupt side and the consumers. A post to a full mailbox is refused
and counted; nothing ever waits for room.
-/

namespace Instrument

/-- A queue with room for `capacity` messages. -/
structure Mailbox (α : Type) where
  name : String
  capacity : Nat
  /-- The waiting messages. -/
  queue : Queue α
  /-- The refused posts. -/
  overflow : Nat

namespace Mailbox

variable {α : Type}

def new (name : String) (capacity : Nat) : Mailbox α :=
  ⟨name, capacity, .empty, 0⟩

def size (m : Mailbox α) : Nat :=
  m.queue.size

/-- Appends a message if there is room; the answer says whether it was taken. -/
def post (m : Mailbox α) (a : α) : Bool × Mailbox α :=
  if m.size < m.capacity then (true, { m with queue := m.queue.push a })
  else (false, { m with overflow := m.overflow + 1 })

def fetch (m : Mailbox α) : Option α × Mailbox α :=
  match m.queue.pop? with
  | none => (none, m)
  | some (a, queue) => (some a, { m with queue })

def summary (m : Mailbox α) : String :=
  "Mailbox \x7b name: " ++ Text.quoted m.name ++ ", capacity: " ++ toString m.capacity ++
    ", len: " ++ toString m.size ++ ", overflow: " ++ toString m.overflow ++ " \x7d"

end Mailbox

end Instrument
