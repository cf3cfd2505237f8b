import TuyaMiniSwitch.App.ZclWrite
import TuyaMiniSwitch.App.ReportingRuns

/-!
# Application - The reports of the device

The attributes of endpoint 1 with their permission to be reported, and the reports that the
application configures at a start.

Main results:

- Definition {lit}`deviceTable`: the attribute tables of the device as the reporting code sees
  them.
-/

namespace Reporting

open Machine Firmware

/-- The attributes with the access bit {lit}`ACCESS_CONTROL_REPORTABLE` in
{lit}`app_endpoint_cfg.c`. -/
def reportableAttrs : List (UInt16 × UInt16) :=
  [ (ZCL_CLUSTER_GEN_ON_OFF, ZCL_ATTRID_ONOFF),
    (ZCL_CLUSTER_GEN_ON_OFF_SWITCH_CONFIG, CUSTOM_ATTRID_DECOUPLED),
    (ZCL_CLUSTER_GEN_MULTISTATE_INPUT_BASIC, 0x0055),
    (ZCL_CLUSTER_GEN_MULTISTATE_INPUT_BASIC, 0x006F),
    (ZCL_CLUSTER_GEN_LEVEL_CONTROL, ZCL_ATTRID_LEVEL_CURRENT_LEVEL) ]

def deviceFind (endpoint : UInt8) (clusterId attrID : UInt16) : Option AttrInfo :=
  (zclFindAttribute endpoint clusterId attrID).map fun attr =>
    { id := attr.id, type := attr.type, reportable := (clusterId, attr.id) ∈ reportableAttrs }

/-- The attribute tables of the device. -/
def deviceTable : AttrTable where
  find := deviceFind
  id_eq := by
    intro endpoint clusterId attrID attr hfind
    rcases Option.map_eq_some_iff.mp hfind with ⟨found, hfound, rfl⟩
    unfold zclFindAttribute at hfound
    split at hfound
    · rcases Option.bind_eq_some_iff.mp hfound with ⟨attrTable, -, hattr⟩
      simpa using List.find?_some hattr
    · cases hfound
  cluster_ne := by
    intro endpoint attrID
    have hnone : appClusterList1.find? (fun cluster => cluster.1 == 0xFFFF) = none := by decide
    simp [deviceFind, zclFindAttribute, hnone]

/-- The reports that {lit}`user_init` configures. -/
def defaultReports : List Event :=
  [ .default APP_ENDPOINT1 0x0104 ZCL_CLUSTER_GEN_ON_OFF ZCL_ATTRID_ONOFF 0 65000 fun _ => 1,
    .default APP_ENDPOINT1 0x0104 ZCL_CLUSTER_GEN_ON_OFF_SWITCH_CONFIG CUSTOM_ATTRID_DECOUPLED 0
      65000 fun _ => 1 ]

end Reporting
