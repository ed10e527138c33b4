/-!
# The container service interface

The functions of `vmcompute.dll` as the program calls them.  A call carries all the arguments of
the source but the addresses of its out parameters, which are part of the reply.  Every function
is reached through a wrapper that first loads the library and looks the export up, so a reply is
either the returned code with the out parameters, or the failure of that lookup.
-/

namespace HostcomputeNspawn

/-- `std::wstring`, the code units of a wide string. -/
abbrev WString := List UInt16

/-- An exception that derives from `std::exception`. -/
structure StdException where
  what : String
deriving DecidableEq, Repr

/-- `HANDLE`. -/
abbrev Handle := Nat

structure Guid where
  data1 : UInt32
  data2 : UInt16
  data3 : UInt16
  data4 : Vector UInt8 8
deriving DecidableEq, Repr

inductive GraphDriverType
  | diffDriver
  | filterDriver
deriving DecidableEq, Repr

structure DriverInfo where
  flavour : GraphDriverType
  homeDir : WString
deriving DecidableEq, Repr

/-- `WC_LAYER_DESCRIPTOR`, with its flags as one word. -/
structure WcLayerDescriptor where
  layerId : Guid
  flags : UInt32
  path : WString
deriving DecidableEq, Repr

/-- `HcsErrors::operation_pending`. -/
def operationPending : UInt32 := 0xC0370103

/-- A call to an export of `vmcompute.dll`. -/
inductive ApiCall
  | createSandboxLayer (info : DriverInfo) (id parentId : WString)
      (layers : List WcLayerDescriptor)
  | activateLayer (info : DriverInfo) (id : WString)
  | prepareLayer (info : DriverInfo) (id : WString) (layers : List WcLayerDescriptor)
  | unprepareLayer (info : DriverInfo) (id : WString)
  | deactivateLayer (info : DriverInfo) (id : WString)
  | destroyLayer (info : DriverInfo) (id : WString)
  | getLayerMountPath (info : DriverInfo) (id : WString)
  | nameToGuid (string : WString)
  | hcsCreateComputeSystem (id configuration : WString)
  | hcsRegisterComputeSystemCallback (computeSystem : Handle)
  | hcsStartComputeSystem (computeSystem : Handle) (options : WString)
  | hcsTerminateComputeSystem (computeSystem : Handle) (options : WString)
  | hcsEnumerateComputeSystems (query : WString)
  | hcsCreateProcess (computeSystem : Handle) (processParameters : WString)
  | hcsRegisterProcessCallback (process : Handle)
deriving DecidableEq, Repr

namespace ApiCall

/-- The out parameters that the program reads after a call. -/
@[reducible]
def Out : ApiCall → Type
  | getLayerMountPath _ _ => WString
  | nameToGuid _ => Guid
  | hcsCreateComputeSystem _ _ => Handle
  | hcsEnumerateComputeSystems _ => WString
  | hcsCreateProcess _ _ => Handle
  | _ => Unit

/-- The name under which the export is looked up. -/
def name : ApiCall → String
  | createSandboxLayer .. => "CreateSandboxLayer"
  | activateLayer .. => "ActivateLayer"
  | prepareLayer .. => "PrepareLayer"
  | unprepareLayer .. => "UnprepareLayer"
  | deactivateLayer .. => "DeactivateLayer"
  | destroyLayer .. => "DestroyLayer"
  | getLayerMountPath .. => "GetLayerMountPath"
  | nameToGuid .. => "NameToGuid"
  | hcsCreateComputeSystem .. => "HcsCreateComputeSystem"
  | hcsRegisterComputeSystemCallback .. => "HcsRegisterComputeSystemCallback"
  | hcsStartComputeSystem .. => "HcsStartComputeSystem"
  | hcsTerminateComputeSystem .. => "HcsTerminateComputeSystem"
  | hcsEnumerateComputeSystems .. => "HcsEnumerateComputeSystems"
  | hcsCreateProcess .. => "HcsCreateProcess"
  | hcsRegisterProcessCallback .. => "HcsRegisterProcessCallback"

end ApiCall

/-- Why a wrapper throws instead of calling the export. -/
inductive LookupFailure
  | library (lastError : UInt32)
  | function
deriving DecidableEq, Repr

/-- The returned code of a call and its out parameters. -/
structure ApiResult (call : ApiCall) where
  code : UInt32
  out : call.Out

/-- What the wrapper of a call comes back with. -/
abbrev ApiReply (call : ApiCall) := Except LookupFailure (ApiResult call)

end HostcomputeNspawn
