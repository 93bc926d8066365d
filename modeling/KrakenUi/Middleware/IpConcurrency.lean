import KrakenUi.Net.IpAddr
import Mathlib.Data.List.AList
import Mathlib.Logic.Function.Basic

namespace KrakenUi

open Net

/-!
# The concurrency ceiling of one address

A map keeps a weak reference to the semaphore of each address.  A semaphore
lives as long as some request refers to it, and is made anew when it is asked
for after that.

The calls of `semaphore` exclude each other by a lock, but requests take and
return permits and drop their references at any time, also while such a call is
on its way.  A state therefore says how far the call has come that holds the
lock, and each step is one access to what the requests share.
-/

namespace Middleware

/-- How many `semaphore` calls pass between full sweeps of the map. -/
def sweepInterval : Nat := 1024

/-- What a request does with its reference: it has got it, it holds a permit with
it, or it is about to drop it. -/
inductive Stage where
  | handle
  | permit
  | closing
  deriving DecidableEq

/-- A strong reference to a semaphore, held by a request of an address. -/
structure Reference where
  ip : IpAddr
  semaphore : Nat
  stage : Stage
  deriving DecidableEq

/-- The limiter and all that requests hold of it.  Semaphores are numbered in
the order in which they are made. -/
structure IpConcurrencyLimiter where
  semaphores : AList fun _ : IpAddr => Nat
  callsSinceSweep : Nat
  /-- The call that holds the lock, with the entries that its sweep has yet to see. -/
  call : Option (IpAddr × List IpAddr)
  available : Nat -> Nat
  created : Nat
  held : List Reference

namespace IpConcurrencyLimiter

def new : IpConcurrencyLimiter where
  semaphores := ∅
  callsSinceSweep := 0
  call := none
  available := fun _ => 0
  created := 0
  held := []

variable (maxPerIp : Nat) (limiter : IpConcurrencyLimiter)

/-- The strong count of a semaphore. -/
def strongCount (semaphore : Nat) : Nat :=
  limiter.held.countP fun reference => reference.semaphore = semaphore

/-- `Weak::upgrade` of the entry of an address. -/
def upgrade (ip : IpAddr) : Option Nat :=
  (limiter.semaphores.lookup ip).filter fun semaphore => 0 < limiter.strongCount semaphore

/-- A call takes the lock and is counted.  When its time has come it sweeps. -/
def lock (ip : IpAddr) : IpConcurrencyLimiter :=
  match limiter.call with
  | some _ => limiter
  | none =>
      let calls := limiter.callsSinceSweep + 1
      if sweepInterval ≤ calls then
        { limiter with callsSinceSweep := 0, call := some (ip, limiter.semaphores.keys) }
      else { limiter with callsSinceSweep := calls, call := some (ip, []) }

/-- The sweep sees one entry, and keeps it if its semaphore has references. -/
def retain : IpConcurrencyLimiter :=
  match limiter.call with
  | some (ip, entry :: rest) =>
      { limiter with
        call := some (ip, rest)
        semaphores :=
          if (limiter.upgrade entry).isSome then limiter.semaphores
          else limiter.semaphores.erase entry }
  | _ => limiter

/-- The call returns the semaphore of its address, or a new one, and leaves the lock. -/
def get : IpConcurrencyLimiter :=
  match limiter.call with
  | some (ip, []) =>
      match limiter.upgrade ip with
      | some semaphore =>
          { limiter with call := none, held := ⟨ip, semaphore, .handle⟩ :: limiter.held }
      | none =>
          { semaphores := limiter.semaphores.insert ip limiter.created
            callsSinceSweep := limiter.callsSinceSweep
            call := none
            available := Function.update limiter.available limiter.created maxPerIp
            created := limiter.created + 1
            held := ⟨ip, limiter.created, .handle⟩ :: limiter.held }
  | _ => limiter

/-- `try_acquire_owned` turns a reference into a permit, or drops it. -/
def tryAcquireOwned (index : Nat) : IpConcurrencyLimiter :=
  match limiter.held[index]? with
  | some ⟨ip, semaphore, .handle⟩ =>
      if 0 < limiter.available semaphore then
        { limiter with
          available :=
            Function.update limiter.available semaphore (limiter.available semaphore - 1)
          held := limiter.held.set index ⟨ip, semaphore, .permit⟩ }
      else { limiter with held := limiter.held.set index ⟨ip, semaphore, .closing⟩ }
  | _ => limiter

/-- A permit that is dropped is first returned. -/
def addPermits (index : Nat) : IpConcurrencyLimiter :=
  match limiter.held[index]? with
  | some ⟨ip, semaphore, .permit⟩ =>
      { limiter with
        available := Function.update limiter.available semaphore (limiter.available semaphore + 1)
        held := limiter.held.set index ⟨ip, semaphore, .closing⟩ }
  | _ => limiter

/-- A reference without a permit is dropped. -/
def drop (index : Nat) : IpConcurrencyLimiter :=
  match limiter.held[index]? with
  | some ⟨_, _, .handle⟩ | some ⟨_, _, .closing⟩ =>
      { limiter with held := limiter.held.eraseIdx index }
  | _ => limiter

/-- What can happen next.  References are meant by their places in the list. -/
inductive Event where
  | lock (ip : IpAddr)
  | retain
  | get
  | tryAcquireOwned (index : Nat)
  | addPermits (index : Nat)
  | drop (index : Nat)
  deriving DecidableEq

/-- One step.  An event that is not possible changes nothing. -/
def step : Event -> IpConcurrencyLimiter
  | .lock ip => limiter.lock ip
  | .retain => limiter.retain
  | .get => limiter.get maxPerIp
  | .tryAcquireOwned index => limiter.tryAcquireOwned index
  | .addPermits index => limiter.addPermits index
  | .drop index => limiter.drop index

/-- The limiter after these events. -/
def run (events : List Event) : IpConcurrencyLimiter :=
  events.foldl (step maxPerIp) new

/-- The live permits of an address. -/
def livePermits (ip : IpAddr) : Nat :=
  limiter.held.countP fun reference => reference.ip = ip ∧ reference.stage = .permit

/-- The live permits of a semaphore. -/
def permits (semaphore : Nat) : Nat :=
  limiter.held.countP fun reference =>
    reference.semaphore = semaphore ∧ reference.stage = .permit

/-- The whole of `semaphore`, when nothing happens in between. -/
def semaphore (ip : IpAddr) : IpConcurrencyLimiter :=
  let locked := limiter.lock ip
  let entries := (locked.call.map Prod.snd).getD []
  (entries.foldl (fun limiter _ => limiter.retain) locked).get maxPerIp

end IpConcurrencyLimiter
end Middleware
end KrakenUi
