import HostcomputeNspawn.Operations

/-!
# Layers and their ids

A layer keeps the wide form of its path from the moment it is constructed, next to the base path
and the name from which the narrow form is joined again on demand.  That the two are the same path
is part of the type of a layer.

The id of a layer is derived from its name by the container service; its text is cut out of the
braced form of the GUID, of which the returned length counts the terminator.
-/

namespace HostcomputeNspawn

structure ContainerId where
  name : String
deriving DecidableEq, Repr

namespace ContainerId

def toGuid (lib : Externals) (id : ContainerId) : Nspawn Guid :=
  checked lib (.nameToGuid (lib.widen id.name)) 0 fun _ ↦
    lib.traceMsg .toGuid ("Error obtaining GUID from name: [" ++ id.name ++ "]")

/-- `std::string::substr`. -/
def substr (str : String) (pos count : ℕ) : Except StdException String :=
  if str.length < pos then .error ⟨"invalid string position"⟩
  else .ok (.ofList ((str.toList.drop pos).take count))

/-- Subtraction of `size_t` values. -/
def sizeSub (a b : ℕ) : ℕ := (a + (2 ^ 64 - b)) % 2 ^ 64

/-- What `to_id` computes from the GUID. -/
def idText (lib : Externals) (id : ContainerId) (guid : Guid) : Except StdException String :=
  let (length, guidstr) := lib.stringFromGuid2 guid 40
  if length = 0 then
    .error ⟨lib.traceMsg .toId ("Error converting GUID to string, name: [" ++ id.name ++ "]")⟩
  else
    let braceful := String.ofList ((lib.narrowLength guidstr length).toList.map Char.toLower)
    substr braceful 1 (sizeSub braceful.length 3)

def toId (lib : Externals) (id : ContainerId) : Nspawn String := do
  let guid ← id.toGuid lib
  ofExcept (id.idText lib guid)

end ContainerId

structure ContainerLayer (lib : Externals) where
  basePath : String
  wpath : WString
  id : ContainerId
  wpath_eq : wpath = lib.widen (basePath ++ id.name)

namespace ContainerLayer

variable {lib : Externals}

/-- `container_layer(const std::string&, const std::string)`. -/
def make (lib : Externals) (basePath layerName : String) : ContainerLayer lib where
  basePath := basePath
  wpath := lib.widen (basePath ++ layerName)
  id := ⟨layerName⟩
  wpath_eq := rfl

def getName (layer : ContainerLayer lib) : String := layer.id.name

def getPath (layer : ContainerLayer lib) : String := layer.basePath ++ layer.id.name

/-- The JSON value of a layer whose id text is known. -/
def jsonWithId (layer : ContainerLayer lib) (text : String) : Json :=
  .object [("ID", .string text), ("Path", .string layer.getPath)]

def toJson (layer : ContainerLayer lib) : Nspawn Json := do
  let text ← layer.id.toId lib
  return layer.jsonWithId text

/-- The descriptor of a layer whose GUID is known. -/
def descriptorWithId (layer : ContainerLayer lib) (guid : Guid) : WcLayerDescriptor where
  layerId := guid
  flags := 0
  path := layer.wpath

def toDescriptor (layer : ContainerLayer lib) : Nspawn WcLayerDescriptor := do
  let guid ← layer.id.toGuid lib
  return layer.descriptorWithId guid

def clone (layer : ContainerLayer lib) : ContainerLayer lib :=
  make lib layer.basePath layer.id.name

/-- The path fixed at construction and the path joined on demand are one. -/
theorem wpath_eq_widen_getPath (layer : ContainerLayer lib) :
    layer.wpath = lib.widen layer.getPath := layer.wpath_eq

/-- A clone is built by the same route as its original, so nothing drifts. -/
@[simp]
theorem clone_eq (layer : ContainerLayer lib) : layer.clone = layer := by
  obtain ⟨basePath, wpath, ⟨name⟩, rfl⟩ := layer
  rfl

end ContainerLayer

end HostcomputeNspawn
