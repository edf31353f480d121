import HandleLayer.Command
import HandleLayer.Wrapper

/-!
# Requests to an instance

Displays and their modes are reported to the application again and again; tools are
listed, the layer itself first.

## Main definitions

* `DisplayQuery`, `ModeQuery` — the queries, each in a first and a second form.
* `InstanceRequest`, `InstanceRequest.command`, `InstanceRequest.resolve`.
-/

namespace HandleLayer

/-- The queries that report displays. -/
inductive DisplayQuery
  | displays
  | planes
  | supportedDisplays (plane : UInt32)
  | displays2
  | planes2
  deriving DecidableEq, Repr, Inhabited

/-- The queries that report the modes of a display. -/
inductive ModeQuery
  | modes
  | modes2
  deriving DecidableEq, Repr, Inhabited

/-- The queries that list tools. -/
inductive ToolQuery
  | core
  | extension
  deriving DecidableEq, Repr, Inhabited

/-- A request to an instance. -/
inductive InstanceRequest
  | destroyInstance
  | physicalDeviceProperties (physicalDevice : Handle)
  | destroySurface (surface : Handle)
  | displays (query : DisplayQuery) (physicalDevice : Handle)
  | modes (query : ModeQuery) (physicalDevice display : Handle)
  /-- The count is what the application or the layer has room for. -/
  | tools (query : ToolQuery) (physicalDevice : Handle) (count : UInt32)
  deriving DecidableEq, Repr, Inhabited

namespace InstanceRequest

/-- The command of a request. -/
def command : InstanceRequest → Command
  | destroyInstance => .destroyInstance
  | physicalDeviceProperties _ => .getPhysicalDeviceProperties
  | destroySurface _ => .destroySurfaceKhr
  | displays .displays _ => .getPhysicalDeviceDisplayPropertiesKhr
  | displays .planes _ => .getPhysicalDeviceDisplayPlanePropertiesKhr
  | displays (.supportedDisplays _) _ => .getDisplayPlaneSupportedDisplaysKhr
  | displays .displays2 _ => .getPhysicalDeviceDisplayProperties2Khr
  | displays .planes2 _ => .getPhysicalDeviceDisplayPlaneProperties2Khr
  | modes .modes _ _ => .getDisplayModePropertiesKhr
  | modes .modes2 _ _ => .getDisplayModeProperties2Khr
  | tools .core _ _ => .getPhysicalDeviceToolProperties
  | tools .extension _ _ => .getPhysicalDeviceToolPropertiesExt

/-- The request as it is handed down. -/
def resolve (w : Wrapper) : InstanceRequest → InstanceRequest
  | destroySurface surface => destroySurface (w.unwrap surface)
  | modes query physicalDevice display => modes query physicalDevice (w.unwrap display)
  | r => r

end InstanceRequest

end HandleLayer
