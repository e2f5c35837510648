import EnergyStorage.Can.Frame
import EnergyStorage.Lib.Machine

/-! # The thread of a CAN interface

Senders queue a frame and raise the counter of an event descriptor.  The thread writes the
frame in front and takes it off the queue after the write, so that a frame the bus refuses
stays in front.  An error of the socket is mended by opening it again, with longer and longer
waits between the attempts. -/

namespace EnergyStorage
namespace Driver

open Lib

def kReconnectMin : Nat := 200
def kReconnectMax : Nat := 5000

/-- The values of `errno` that `isFatalErrno` tells apart. -/
inductive CanErrno
  | netDown
  | netUnreach
  | noDev
  | io
  | badF
  | pipe
  | connReset
  | connRefused
  | addrNotAvail
  | inval
  | other
  deriving DecidableEq

def isFatalErrno : CanErrno → Bool
  | .netDown | .netUnreach | .noDev | .io | .badF | .pipe | .connReset | .connRefused
  | .addrNotAvail | .inval => true
  | .other => false

/-- What the write of a frame comes to: the socket takes it whole, or `errno` tells why not. -/
inductive CanWrite
  | taken
  | refused (errno : CanErrno)
  deriving DecidableEq

/-- Where the thread stands: in `epoll_wait` or among its results; past the event descriptor
and about to ask for waiting frames; and at the three places of the loop in `handleWrite`. -/
inductive CanWriter
  | waiting
  | looking
  | draining
  | writing (frame : CanFrame)
  | popping (frame : CanFrame)
  deriving DecidableEq

/-- What `reopen` and the registration of the new descriptor come to. -/
inductive Reopened
  | failed
  | unregistered (fd : Nat)
  | open (fd : Nat)
  deriving DecidableEq

structure CanThread where
  running : Bool := true
  socketFd : Int
  txQueue : List CanFrame := []
  /-- The counter of the event descriptor. -/
  eventCount : Nat := 0
  /-- Calls of `send` that have queued their frame and not yet raised the counter. -/
  notifying : Nat := 0
  writer : CanWriter := .waiting
  needReconnect : Bool := false
  nextReconnectTp : Nat
  reconnectDelay : Nat := kReconnectMin
  /-- The last frame that was tried has been refused, and not taken since. -/
  refused : Bool := false
  /-- Every frame that was queued so far, and every frame that the bus has taken. -/
  queued : List CanFrame := []
  bus : List CanFrame := []
  /-- How often the connection was lost, and how often `CanUp` was posted. -/
  losses : Nat := 0
  ups : Nat := 0
  /-- The attempts to reconnect that have failed since the socket was last open, latest first. -/
  failedAt : List Nat := []

inductive CanStep
  /-- a call of `send`, up to the end of its lock -/
  | send (frame : CanFrame)
  /-- the call raises the counter -/
  | wakeup
  | stop
  /-- the event descriptor: it is cleared, and a reconnect is tried -/
  | event (nowMs : Nat) (result : Reopened)
  /-- `hasPendingTx` after that -/
  | look
  /-- readiness of descriptor `fd`: an error, or room for a write -/
  | ready (fd : Int) (error output : Bool) (nowMs : Nat)
  /-- the wait has timed out, or its results are done -/
  | reconnect (nowMs : Nat) (result : Reopened)
  /-- the head of the loop in `handleWrite` -/
  | front
  | write (outcome : CanWrite) (nowMs : Nat)
  | pop

namespace CanThread

def send (s : CanThread) (frame : CanFrame) : CanThread :=
  { s with
    txQueue := s.txQueue ++ [frame], notifying := s.notifying + 1, queued := s.queued ++ [frame] }

def wakeup (s : CanThread) : CanThread :=
  if s.notifying = 0 then s
  else { s with notifying := s.notifying - 1, eventCount := s.eventCount + 1 }

def stop (s : CanThread) : CanThread :=
  { s with running := false, eventCount := s.eventCount + 1 }

def markNeedReconnect (s : CanThread) (nowMs : Nat) : CanThread :=
  if s.needReconnect = true then s
  else
    { s with
      needReconnect := true, nextReconnectTp := nowMs, reconnectDelay := kReconnectMin
      losses := s.losses + 1 }

/-- An attempt has failed: wait, and double the next wait. -/
def backOff (s : CanThread) (nowMs : Nat) : CanThread :=
  { s with
    nextReconnectTp := nowMs + s.reconnectDelay
    reconnectDelay := min (s.reconnectDelay * 2) kReconnectMax
    eventCount := s.eventCount + 1, failedAt := nowMs :: s.failedAt }

/-- The socket is open again, and `CanUp` is posted. -/
def recovered (s : CanThread) (fd : Nat) : CanThread :=
  { s with socketFd := fd, needReconnect := false, ups := s.ups + 1, failedAt := [] }

def tryReconnect (s : CanThread) (nowMs : Nat) (result : Reopened) : CanThread :=
  if s.needReconnect = false then s
  else if nowMs < s.nextReconnectTp then s
  else
    match result with
    | .failed => { s.backOff nowMs with socketFd := -1 }
    | .unregistered fd => ((s.recovered fd).markNeedReconnect nowMs).backOff nowMs
    | .open fd =>
      let s := { s.recovered fd with reconnectDelay := kReconnectMin }
      if s.txQueue = [] then s else { s with eventCount := s.eventCount + 1 }

/-- `handleWrite` up to its loop. -/
def handleWrite (s : CanThread) : CanThread :=
  if s.needReconnect = true then s else { s with writer := .draining }

def event (s : CanThread) (nowMs : Nat) (result : Reopened) : CanThread :=
  if s.writer = .waiting ∧ 0 < s.eventCount then
    let s := { s with eventCount := 0 }
    if s.running = false then s else { s.tryReconnect nowMs result with writer := .looking }
  else s

def look (s : CanThread) : CanThread :=
  if s.writer = .looking then
    let s := { s with writer := .waiting }
    if s.needReconnect = false ∧ s.txQueue ≠ [] then s.handleWrite else s
  else s

def ready (s : CanThread) (fd : Int) (error output : Bool) (nowMs : Nat) : CanThread :=
  if s.writer = .waiting ∧ fd = s.socketFd then
    if error = true then s.markNeedReconnect nowMs
    else if output = true then s.handleWrite
    else s
  else s

def reconnect (s : CanThread) (nowMs : Nat) (result : Reopened) : CanThread :=
  if s.writer = .waiting then s.tryReconnect nowMs result else s

def front (s : CanThread) : CanThread :=
  if s.writer = .draining then
    if s.running = false then { s with writer := .waiting }
    else { s with writer := (s.txQueue.head?.map .writing).getD .waiting }
  else s

/-- A closed socket refuses each frame. -/
def driverSend (s : CanThread) (outcome : CanWrite) : CanWrite :=
  if s.socketFd < 0 then .refused .badF else outcome

def write (s : CanThread) (outcome : CanWrite) (nowMs : Nat) : CanThread :=
  match s.writer with
  | .writing frame =>
    match s.driverSend outcome with
    | .taken => { s with bus := s.bus ++ [frame], refused := false, writer := .popping frame }
    | .refused errno =>
      let s := { s with refused := true, writer := .waiting }
      if isFatalErrno errno = true then s.markNeedReconnect nowMs else s
  | .waiting | .looking | .draining | .popping _ => s

def pop (s : CanThread) : CanThread :=
  match s.writer with
  | .popping _ => { s with txQueue := s.txQueue.tail, writer := .draining }
  | .waiting | .looking | .draining | .writing _ => s

def step (s : CanThread) : CanStep → CanThread
  | .send frame => s.send frame
  | .wakeup => s.wakeup
  | .stop => s.stop
  | .event nowMs result => s.event nowMs result
  | .look => s.look
  | .ready fd error output nowMs => s.ready fd error output nowMs
  | .reconnect nowMs result => s.reconnect nowMs result
  | .front => s.front
  | .write outcome nowMs => s.write outcome nowMs
  | .pop => s.pop

end CanThread

/-- The thread from `start` on, when the clock shows `startMs`. -/
def canThread (socketFd : Int) (startMs : Nat) : Machine CanThread CanStep Empty where
  start := { socketFd := socketFd, nextReconnectTp := startMs }
  step s e := (s.step e, [])

/-! ### What a step leaves alone -/

namespace CanThread

variable (s : CanThread) (nowMs : Nat)

@[simp] theorem markNeedReconnect_txQueue : (s.markNeedReconnect nowMs).txQueue = s.txQueue := by
  unfold markNeedReconnect
  split <;> rfl

@[simp] theorem markNeedReconnect_queued : (s.markNeedReconnect nowMs).queued = s.queued := by
  unfold markNeedReconnect
  split <;> rfl

@[simp] theorem markNeedReconnect_bus : (s.markNeedReconnect nowMs).bus = s.bus := by
  unfold markNeedReconnect
  split <;> rfl

@[simp] theorem markNeedReconnect_writer : (s.markNeedReconnect nowMs).writer = s.writer := by
  unfold markNeedReconnect
  split <;> rfl

@[simp] theorem markNeedReconnect_needReconnect :
    (s.markNeedReconnect nowMs).needReconnect = true := by
  unfold markNeedReconnect
  split
  · rename_i h
    exact h
  · rfl

/-- The fields that the frames pass through. -/
def flow (s : CanThread) : List CanFrame × List CanFrame × List CanFrame × CanWriter :=
  (s.txQueue, s.queued, s.bus, s.writer)

theorem tryReconnect_flow (result : Reopened) : (s.tryReconnect nowMs result).flow = s.flow := by
  unfold tryReconnect
  split_ifs
  · rfl
  · rfl
  · cases result with
    | failed => rfl
    | unregistered fd => rfl
    | «open» fd =>
      dsimp only
      split_ifs <;> rfl

theorem handleWrite_cases :
    (s.needReconnect = true ∧ s.handleWrite = s) ∨
      (s.needReconnect = false ∧ s.handleWrite = { s with writer := .draining }) := by
  unfold handleWrite
  cases hneed : s.needReconnect with
  | true => exact Or.inl ⟨rfl, rfl⟩
  | false => exact Or.inr ⟨rfl, rfl⟩

end CanThread

end Driver
end EnergyStorage
