/-
**A link over HTTP.**

* `Station`: a participant with the settings in force, and the client that it talks with;
* `Station.clientSettings`: the client is made from the settings in force when it is first used, and
  kept from then on;
* `Link.overHttp`: the link of such a participant.
-/

import TryConfirmCancel.Link.Basic
import TryConfirmCancel.Rpc.Http.Client

namespace TryConfirmCancel

/-- A participant that talks to its coordinators over HTTP. -/
structure Station (σ : Type) where
  live : LiveConfig
  /-- The settings of the client, once there is one. -/
  client? : Option Rpc.Settings
  world : σ

namespace Station

variable {σ : Type}

/-- A participant that has sent nothing yet. -/
def start (live : LiveConfig) (world : σ) : Station σ := ⟨live, none, world⟩

/-- The settings of the client, which is made now if there is none. -/
def clientSettings (station : Station σ) : Rpc.Settings :=
  station.client?.getD (.ofConfig station.live.current)

/-- Sends a request with the client. -/
def send (transport : Rpc.Transport σ) (request : Rpc.Request) (station : Station σ) :
    Except Rpc.Failure Rpc.Response × Station σ :=
  let settings := station.clientSettings
  let (outcome, after) := (Rpc.Client.mk transport settings).call request station.world
  (outcome, { station with client? := some settings, world := after })

end Station

/-- The link of a participant that talks over HTTP. -/
def Link.overHttp {σ : Type} (transport : Rpc.Transport σ) : Link (Station σ) :=
  { settings := fun station => station.live.current
    now := fun station => transport.now station.world
    send := Station.send transport }

end TryConfirmCancel
