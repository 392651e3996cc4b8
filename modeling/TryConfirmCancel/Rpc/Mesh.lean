/-
**Headers that name a topic in the mesh.**

* `MeshPlace.headers`: the place of an instance and a topic as headers, for the gateway;
* `MeshHeader.all`: the names of these headers.
-/

import TryConfirmCancel.Rpc.Request

namespace TryConfirmCancel

namespace MeshHeader

/-- The names of the headers in order. -/
def all : List String :=
  ["x-mesh-org", "x-mesh-workspace", "x-mesh-env", "x-mesh-unit", "x-mesh-node-id", "x-mesh-instance-id",
    "x-mesh-topic"]

end MeshHeader

/-- The place of an instance and a topic as headers. -/
def MeshPlace.headers (place : MeshPlace) (topic : String) : List (String × String) :=
  MeshHeader.all.zip
    [place.org, place.workspace, place.env, place.unit, place.nodeId, place.instanceId, topic]

end TryConfirmCancel
