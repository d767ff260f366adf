import ShardStream.FaultSlot
import ShardStream.Processor

/-! # Connections to a replication stream

A connection queues what is sent and, once started, delivers it one message at a time to a
consumer. Delivery ends for good at the first fault: one that was sent, one of the consumer, or the
end of the stream. That fault is published in a slot. Closing ends delivery without a fault and
leaves undelivered what is queued.
-/
namespace ShardStream

/-- What travels over a connection: a message, or the fault that ends the stream. -/
inductive Item where
  | delivery (d : Delivery)
  | fault (f : Fault)
  deriving Inhabited

/-- How a consumer takes a message. -/
inductive Reply where
  | done
  | failed (f : Fault)
  | panicked
  deriving DecidableEq

abbrev Consumer (σ : Type) := σ → Delivery → σ × Reply

inductive Stream (σ : Type) where
  | waiting
  | running (consumer : σ)
  | stopped (consumer : σ)

structure Connection (σ : Type) where
  queue : List Item
  stream : Stream σ
  canSend : Bool
  startPosition : Option Vgtid
  /-- How often it was closed, counted as long as that is less than `2 ^ 64`. -/
  closeCount : Nat

inductive SendResult where
  | sent | refused | noSender
  deriving DecidableEq

namespace Connection

variable {σ : Type}

def fresh : Connection σ := ⟨[], .waiting, true, none, 0⟩

/-- Starts the stream for a consumer. A connection can be started once. -/
def start (c : Connection σ) (origin : Vgtid) (consumer : σ) : Except Fault (Connection σ) :=
  match c.stream with
  | .waiting => .ok { c with stream := .running consumer, startPosition := some origin }
  | _ => .error .alreadyStarted

/-- Nothing more can be sent once delivery has ended or the sender is gone. -/
def send (c : Connection σ) (item : Item) : Connection σ × SendResult :=
  if c.canSend then
    match c.stream with
    | .stopped _ => (c, .refused)
    | _ => ({ c with queue := c.queue ++ [item] }, .sent)
  else (c, .noSender)

def dropSender (c : Connection σ) : Connection σ := { c with canSend := false }

/-- Delivers queued items in order, up to the first fault. -/
def deliver (consume : Consumer σ) (consumer : σ) : List Item → σ × Option Fault
  | [] => (consumer, none)
  | .fault f :: _ => (consumer, some f)
  | .delivery d :: rest =>
    match consume consumer d with
    | (next, .done) => deliver consume next rest
    | (next, .failed f) => (next, some f)
    | (next, .panicked) => (next, some .deliveryPanicked)

/-- The fault that ends delivery after the queue has been worked off, if one does. -/
def ending (c : Connection σ) (found : Option Fault) : Option Fault :=
  match found with
  | some f => some f
  | none => if c.canSend then none else some .streamEnded

/-- Lets delivery go on until it ends or has nothing to deliver. -/
def settle (consume : Consumer σ) (c : Connection σ) (slot : FaultSlot) :
    Connection σ × FaultSlot × List Notice :=
  match c.stream with
  | .running consumer =>
    let (after, found) := deliver consume consumer c.queue
    match c.ending found with
    | none => ({ c with queue := [], stream := .running after }, slot, [])
    | some f =>
      let (slot, _, notices) := slot.publish f
      ({ c with queue := [], stream := .stopped after }, slot, notices)
  | _ => (c, slot, [])

/-- Closing again only counts. -/
def close (c : Connection σ) : Connection σ :=
  match c.stream with
  | .running consumer =>
    { c with queue := [], stream := .stopped consumer, closeCount := c.closeCount + 1 }
  | _ => { c with closeCount := c.closeCount + 1 }

def consumer? (c : Connection σ) : Option σ :=
  match c.stream with
  | .waiting => none
  | .running consumer => some consumer
  | .stopped consumer => some consumer

end Connection

end ShardStream
