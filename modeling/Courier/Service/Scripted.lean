import Courier.Service.Recorder

/-
  This file defines services whose answers are scripted, and
  which keep the requests that reach them.

  Key definitions include:
    * `Service.scripted`
-/

namespace Courier.Service

variable {Request : Type}
variable {Answer : Request → Type}
variable {Fault : Type}

/-
  The service that answers as a script says.  Its state is
  the list of the requests so far, oldest first.
-/
def scripted
    (script : (request : Request) → Except Fault (Answer request)) :
    Service Request Answer Fault (List Request) where
  call := fun _ request requests =>
    (script request, requests ++ [request])

end Courier.Service
