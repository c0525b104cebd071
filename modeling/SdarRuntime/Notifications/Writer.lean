import Mathlib.Data.List.Infix
import Mathlib.Algebra.Order.Ring.Nat

/-!
The writer of a notification stream. It queues what the response cannot take yet, within limits
on the messages and bytes that wait, and what waits is dropped when it is closed.
-/

namespace SdarRuntime

namespace Notifications

inductive RequestId where
  | text (value : String)
  | number (value : Int)
  deriving DecidableEq, Repr

structure Limits (μ : Type) where
  maxMessages : Nat
  maxBytes : Nat
  byteLength : μ → Nat

structure Writer (μ : Type) where
  /-- What the response was given. -/
  written : List μ
  queue : List μ
  waitingForDrain : Bool
  closed : Bool
  /-- The response was ended by the writer. -/
  ended : Bool

variable {μ : Type}

def Writer.new : Writer μ :=
  { written := []
    queue := []
    waitingForDrain := false
    closed := false
    ended := false }

def Writer.dispose (writer : Writer μ) : Writer μ :=
  { writer with
    closed := true
    queue := [] }

def Writer.close (writer : Writer μ) : Writer μ :=
  if writer.closed = true then writer
  else { writer.dispose with ended := true }

/-- What is written of a queue, what is left of it, and whether the response is full. Each answer
is that of one `response.write`, and the response has room where there is none. -/
def flushQueue : List Bool → List μ → List μ × List μ × Bool
  | _, [] => ([], [], false)
  | false :: _, message :: later => ([message], later, true)
  | true :: answers, message :: later =>
    (message :: (flushQueue answers later).1, (flushQueue answers later).2)
  | [], message :: later => (message :: (flushQueue [] later).1, (flushQueue [] later).2)

def Writer.flush (answers : List Bool) (writer : Writer μ) : Writer μ :=
  if writer.closed = true ∨ writer.waitingForDrain = true then writer
  else
    { writer with
      written := writer.written ++ (flushQueue answers writer.queue).1
      queue := (flushQueue answers writer.queue).2.1
      waitingForDrain := (flushQueue answers writer.queue).2.2 }

def Writer.drained (answers : List Bool) (writer : Writer μ) : Writer μ :=
  { writer with waitingForDrain := false }.flush answers

def Writer.enqueue (limits : Limits μ) (answers : List Bool) (message : μ) (writer : Writer μ) :
    Writer μ × Bool :=
  if writer.closed = true then (writer, false)
  else if limits.maxMessages < writer.queue.length + 1 then (writer.close, false)
  else if limits.maxBytes < (writer.queue.map limits.byteLength).sum + limits.byteLength message then
    (writer.close, false)
  else ({ writer with queue := writer.queue ++ [message] }.flush answers, true)

/-- An open writer has written or queued these messages, in this order, and a closed one has
written the first of them. -/
structure Writer.Holds (messages : List μ) (writer : Writer μ) : Prop where
  written : writer.written <+: messages
  all : writer.closed = false → writer.written ++ writer.queue = messages

theorem flushQueue_append (answers : List Bool) (queue : List μ) :
    (flushQueue answers queue).1 ++ (flushQueue answers queue).2.1 = queue := by
  induction queue generalizing answers with
  | nil =>
    unfold flushQueue
    rfl
  | cons message later ih =>
    unfold flushQueue
    split
    · contradiction
    · rename_i same
      rw [(List.cons.inj same).1, (List.cons.inj same).2]
      rfl
    · rename_i answers _ _ same
      rw [← (List.cons.inj same).1, ← (List.cons.inj same).2, List.cons_append, ih answers]
    · rename_i same
      rw [← (List.cons.inj same).1, ← (List.cons.inj same).2, List.cons_append, ih []]

variable {messages : List μ} {writer : Writer μ}

theorem Writer.closed_close : writer.close.closed = true := by
  unfold Writer.close
  split
  · assumption
  · rfl

theorem Writer.written_close : writer.close.written = writer.written := by
  unfold Writer.close
  split <;> rfl

theorem Writer.closed_flush (answers : List Bool) :
    (writer.flush answers).closed = writer.closed := by
  unfold Writer.flush
  split <;> rfl

theorem Writer.ended_flush (answers : List Bool) : (writer.flush answers).ended = writer.ended := by
  unfold Writer.flush
  split <;> rfl

theorem Writer.ended_close (ended : writer.ended = true) : writer.close.ended = true := by
  unfold Writer.close
  split
  · exact ended
  · rfl

theorem Writer.ended_enqueue (ended : writer.ended = true) (limits : Limits μ)
    (answers : List Bool) (message : μ) :
    (writer.enqueue limits answers message).1.ended = true := by
  unfold Writer.enqueue
  split
  · exact ended
  · split
    · exact Writer.ended_close ended
    · split
      · exact Writer.ended_close ended
      · rw [Writer.ended_flush]
        exact ended

/-- A writer that is closed, and not disposed of, has ended its response. -/
def Writer.EndsClosed (writer : Writer μ) : Prop :=
  writer.closed = true → writer.ended = true

theorem Writer.EndsClosed.close (endsClosed : writer.EndsClosed) : writer.close.ended = true := by
  unfold Writer.close
  split
  · rename_i closed
    exact endsClosed closed
  · rfl

theorem Writer.EndsClosed.enqueue (endsClosed : writer.EndsClosed) (limits : Limits μ)
    (answers : List Bool) (message : μ) : (writer.enqueue limits answers message).1.EndsClosed := by
  unfold Writer.enqueue
  split
  · exact endsClosed
  · rename_i isOpen
    split
    · exact fun _ => endsClosed.close
    · split
      · exact fun _ => endsClosed.close
      · intro closed
        rw [Writer.closed_flush] at closed
        exact absurd closed isOpen

theorem Writer.holds_new : (Writer.new : Writer μ).Holds [] :=
  { written := List.prefix_refl _
    all := fun _ => rfl }

theorem Writer.Holds.of_closed (holds : writer.Holds messages) {other : Writer μ}
    (same : other.written = writer.written) (closed : other.closed = true) :
    other.Holds messages := by
  constructor
  · rw [same]
    exact holds.written
  · intro isOpen
    rw [closed] at isOpen
    contradiction

theorem Writer.Holds.dispose (holds : writer.Holds messages) : writer.dispose.Holds messages :=
  holds.of_closed rfl rfl

theorem Writer.Holds.close (holds : writer.Holds messages) : writer.close.Holds messages :=
  holds.of_closed Writer.written_close Writer.closed_close

theorem Writer.Holds.flush (holds : writer.Holds messages) (answers : List Bool) :
    (writer.flush answers).Holds messages := by
  unfold Writer.flush
  split
  · exact holds
  · rename_i going
    have isOpen : writer.closed = false := by
      rw [not_or, Bool.not_eq_true] at going
      exact going.1
    have all := holds.all isOpen
    rw [← flushQueue_append answers writer.queue, ← List.append_assoc] at all
    constructor
    · exact ⟨_, all⟩
    · exact fun _ => all

theorem Writer.Holds.drained (holds : writer.Holds messages) (answers : List Bool) :
    (writer.drained answers).Holds messages := by
  unfold Writer.drained
  apply Writer.Holds.flush
  constructor
  · exact holds.written
  · exact holds.all

theorem Writer.Holds.enqueue (holds : writer.Holds messages) (limits : Limits μ)
    (answers : List Bool) (message : μ) :
    (writer.enqueue limits answers message).1.Holds (messages ++ [message]) := by
  have longer {other : Writer μ} (same : other.written = writer.written)
      (closed : other.closed = true) : other.Holds (messages ++ [message]) := by
    constructor
    · rw [same]
      exact holds.written.trans (List.prefix_append _ _)
    · intro isOpen
      rw [closed] at isOpen
      contradiction
  unfold Writer.enqueue
  split
  · rename_i closed
    exact longer rfl closed
  · rename_i isOpen
    split
    · exact longer Writer.written_close Writer.closed_close
    · split
      · exact longer Writer.written_close Writer.closed_close
      · apply Writer.Holds.flush
        have all := holds.all (Bool.eq_false_iff.mpr isOpen)
        constructor
        · exact holds.written.trans (List.prefix_append _ _)
        · intro _
          rw [← all, List.append_assoc]

theorem Writer.enqueue_taken {limits : Limits μ} {answers : List Bool} {message : μ} :
    (writer.enqueue limits answers message).2 = !(writer.enqueue limits answers message).1.closed := by
  unfold Writer.enqueue
  split
  · rename_i closed
    simp [closed]
  · rename_i isOpen
    split
    · simp [Writer.closed_close]
    · split
      · simp [Writer.closed_close]
      · simp [Writer.closed_flush, isOpen]

end Notifications

end SdarRuntime
