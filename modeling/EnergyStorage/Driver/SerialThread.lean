import EnergyStorage.Lib.Machine
import EnergyStorage.Modbus.Crc

/-! # The thread of a serial port

Frames to send wait in a queue; a sender raises the counter of an event descriptor, and the
thread of the port writes until the queue is empty.  The same thread reads the port and
looks, when its timer fires, for requests that are not answered. -/

namespace EnergyStorage
namespace Driver

open Lib

/-- What the write of a frame returns: a count of bytes, or one of the values of `errno`. -/
inductive WriteOutcome
  | wrote (n : Nat)
  | again
  | interrupted
  | failed
  deriving DecidableEq

/-- Where the thread stands in `handleWrite`. -/
inductive Writer
  | idle
  | draining
  | writing (data : List Byte)
  deriving DecidableEq

inductive LinkCallback
  | timeout
  | recover
  deriving DecidableEq

/-- The settings of a port, and the clock at `start`, which is read for each stamp. -/
structure LinkConfig where
  rxTimeoutMs : Nat
  timeoutCheckPeriodMs : Nat
  startTxMs : Nat
  startRxMs : Nat
  start_le : startTxMs ≤ startRxMs

structure SerialThread where
  running : Bool
  eventFd : Int
  /-- What `getFd` of the driver gives. -/
  serialFd : Int
  txQueue : List (List Byte) := []
  /-- The counter of the event descriptor. -/
  eventCount : Nat := 0
  /-- Calls of `send` that have queued their frame and not yet raised the counter. -/
  notifying : Nat := 0
  writer : Writer := .idle
  /-- The bytes that have reached the port. -/
  port : List Byte := []
  /-- Every frame that was queued so far. -/
  queued : List (List Byte) := []
  lastTxTsMs : Nat
  lastRxTsMs : Nat
  rxTimeoutActive : Bool := false

inductive SerialStep
  /-- a call of `send`, up to the end of its lock -/
  | send (data : List Byte)
  /-- the call raises the counter -/
  | notify
  /-- the thread wakes for the event descriptor and clears it -/
  | wake
  /-- the next pass of the loop in `handleWrite`, up to the write -/
  | pop (nowMs : Nat)
  | write (outcome : WriteOutcome)
  /-- `handleRead`; no bytes where the read fails -/
  | read (nowMs : Nat) (bytes : List Byte)
  /-- `handleTimer` -/
  | timer (nowMs : Nat)

namespace SerialThread

def canSend (s : SerialThread) (data : List Byte) : Bool :=
  s.running && !decide (s.eventFd < 0) && !decide (s.serialFd < 0) && !data.isEmpty

def send (s : SerialThread) (data : List Byte) : SerialThread :=
  if s.canSend data then
    { s with
      txQueue := s.txQueue ++ [data], notifying := s.notifying + 1, queued := s.queued ++ [data] }
  else s

def notify (s : SerialThread) : SerialThread :=
  if s.notifying = 0 then s
  else { s with notifying := s.notifying - 1, eventCount := s.eventCount + 1 }

def wake (s : SerialThread) : SerialThread :=
  if s.writer = .idle ∧ 0 < s.eventCount then { s with eventCount := 0, writer := .draining } else s

def pop (s : SerialThread) (nowMs : Nat) : SerialThread :=
  match s.writer, s.txQueue with
  | .draining, [] => { s with writer := .idle }
  | .draining, data :: rest =>
    { s with txQueue := rest, lastTxTsMs := nowMs, writer := .writing data }
  | .idle, _ | .writing _, _ => s

/-- Only an error other than `EAGAIN` and `EINTR` ends the loop; the frame is gone in any case. -/
def write (s : SerialThread) (outcome : WriteOutcome) : SerialThread :=
  match s.writer with
  | .writing data =>
    match outcome with
    | .wrote n => { s with port := s.port ++ data.take n, writer := .draining }
    | .again | .interrupted => { s with writer := .draining }
    | .failed => { s with writer := .idle }
  | .idle | .draining => s

def handleRead (s : SerialThread) (nowMs : Nat) (bytes : List Byte) : SerialThread :=
  if bytes = [] then s else { s with lastRxTsMs := nowMs }

def checkRxTimeout (cfg : LinkConfig) (s : SerialThread) (nowMs : Nat) :
    SerialThread × List LinkCallback :=
  if cfg.rxTimeoutMs = 0 then (s, [])
  else
    let timeout := s.lastTxTsMs > s.lastRxTsMs ∧ nowMs - s.lastTxTsMs ≥ cfg.rxTimeoutMs
    if timeout then
      if s.rxTimeoutActive = false then ({ s with rxTimeoutActive := true }, [.timeout]) else (s, [])
    else
      if s.rxTimeoutActive = true then ({ s with rxTimeoutActive := false }, [.recover])
      else (s, [])

def step (cfg : LinkConfig) (s : SerialThread) : SerialStep → SerialThread × List LinkCallback
  | .send data => (s.send data, [])
  | .notify => (s.notify, [])
  | .wake => (s.wake, [])
  | .pop nowMs => (s.pop nowMs, [])
  | .write outcome => (s.write outcome, [])
  | .read nowMs bytes => (s.handleRead nowMs bytes, [])
  | .timer nowMs => s.checkRxTimeout cfg nowMs

end SerialThread

/-- The thread from `start` on, with the descriptors that it has. -/
def serialThread (cfg : LinkConfig) (running : Bool) (eventFd serialFd : Int) :
    Machine SerialThread SerialStep LinkCallback where
  start :=
    { running := running, eventFd := eventFd, serialFd := serialFd, lastTxTsMs := cfg.startTxMs
      lastRxTsMs := cfg.startRxMs }
  step s e := s.step cfg e

end Driver
end EnergyStorage
