import VirtualPrinter.Link.Retry

/-!
# How a printer is connected

## Main definitions

* `Service.Config`, and `Config.standard`.
-/

namespace VirtualPrinter.Service

open Time (Span)
open Link (RetryPolicy)

/-- Where commands are executed: by the task that reads them, or by one of their own. -/
inductive Dispatch where
  | inline
  | queued
deriving DecidableEq, Repr

/-- The name of a way to execute commands. -/
def Dispatch.name : Dispatch → String
  | .inline => "Inline"
  | .queued => "Queued"

/-- How a printer is connected. -/
structure Config where
  sendCapacity : Nat
  jobCapacity : Nat
  /-- The time between signs of life; zero for none, and then there is no timeout either. -/
  keepaliveInterval : Span
  /-- How long the peer may be silent. -/
  keepaliveTimeout : Option Span
  retry : RetryPolicy
  dispatch : Dispatch
deriving DecidableEq

namespace Config

/-- The standard way to connect. -/
def standard : Config where
  sendCapacity := 64
  jobCapacity := 32
  keepaliveInterval := .ofSeconds 5
  keepaliveTimeout := none
  retry := .standard
  dispatch := .inline

/-- A way to connect with room for so many frames; there is always room for one. -/
def withSendCapacity (c : Config) (n : Nat) : Config := { c with sendCapacity := max n 1 }

/-- A way to connect with room for so many commands; there is always room for one. -/
def withJobCapacity (c : Config) (n : Nat) : Config := { c with jobCapacity := max n 1 }

end Config

end VirtualPrinter.Service
