import Mathlib.Data.List.Count
import Mathlib.Data.List.Nodup
import Mathlib.Data.Option.Basic
import TuyaMiniSwitch.App.RemoteCommands

/-!
# Application - Destinations of one remote action

A light can be reached through a group of the endpoint and through a binding of the
endpoint.  The two loops of {lit}`remoteCmdOnOff` and {lit}`app_level_step` do not look
at each other's table.

Main results:

- Theorem {lit}`commandsTo_of_requests`: how many commands a destination is sent.
- Theorem {lit}`remote_destinations`: one at most, but for a group of the endpoint that
  the endpoint is bound to as well, which is sent two.
-/

namespace Firmware

/-- The commands of a call that go to a destination. -/
def commandsTo (sent : List ZclCmd) (destination : Destination) : Nat :=
  (sent.map fun c => c.dstEpInfo.destination).count (some destination)

/-- What makes two binding entries the same one. -/
def BindingEntry.key (entry : BindingEntry) : UInt16 × UInt8 × Destination :=
  (entry.clusterId, entry.srcEp, entry.destination)

/-- No group is in the group table twice, and no used binding in the binding table. -/
@[mk_iff]
structure ApsTables.NoDuplicates (tables : ApsTables) : Prop where
  groups : tables.apsGroupListGet.Nodup
  bindings : ((tables.g_apsBindingTbl.toList.filter fun entry => entry.used ≠ 0).map
    BindingEntry.key).Nodup

instance (tables : ApsTables) : Decidable tables.NoDuplicates :=
  decidable_of_iff' _ (ApsTables.noDuplicates_iff tables)

/-- The destination is a group of the endpoint. -/
def ApsTables.ByGroup (tables : ApsTables) (ep : UInt8) (destination : Destination) : Prop :=
  destination ∈ (tables.groupsOf ep).map Destination.group

/-- The endpoint is bound to the destination. -/
def ApsTables.ByBinding (tables : ApsTables) (clusterId : UInt16) (ep : UInt8)
    (destination : Destination) : Prop :=
  destination ∈ (tables.bindingsOf clusterId ep).map BindingEntry.destination

instance (tables : ApsTables) (ep : UInt8) (destination : Destination) :
    Decidable (tables.ByGroup ep destination) :=
  inferInstanceAs (Decidable (_ ∈ _))

instance (tables : ApsTables) (clusterId : UInt16) (ep : UInt8) (destination : Destination) :
    Decidable (tables.ByBinding clusterId ep destination) :=
  inferInstanceAs (Decidable (_ ∈ _))

/-! ## Each table names a destination once -/

section Tables

variable {tables : ApsTables} {clusterId : UInt16} {ep : UInt8}

theorem groups_nodup (hno : tables.NoDuplicates) :
    ((tables.groupsOf ep).map Destination.group).Nodup := by
  have hgroups : (tables.groupsOf ep).Nodup := hno.groups.filter _
  apply List.Nodup.map _ hgroups
  intro g g' heq
  injection heq

/-- The entries of one cluster and one endpoint differ in their destinations. -/
theorem bindings_nodup (hno : tables.NoDuplicates) :
    ((tables.bindingsOf clusterId ep).map BindingEntry.destination).Nodup := by
  have hsub : (tables.bindingsOf clusterId ep).Sublist
      (tables.g_apsBindingTbl.toList.filter fun entry => entry.used ≠ 0) := by
    apply List.monotone_filter_right
    intro entry hfor
    have hused := (of_decide_eq_true hfor).1
    simpa using hused
  have hkeys : ((tables.bindingsOf clusterId ep).map BindingEntry.key).Nodup :=
    hno.bindings.sublist (hsub.map _)
  have hkey : ∀ entry ∈ tables.bindingsOf clusterId ep,
      entry.key = (clusterId, ep, entry.destination) := by
    intro entry hmem
    have hfor : entry.IsFor clusterId ep := of_decide_eq_true (List.mem_filter.mp hmem).2
    rw [BindingEntry.key, hfor.2.1, hfor.2.2]
  rw [List.map_congr_left hkey] at hkeys
  apply List.Nodup.of_map fun d : Destination => (clusterId, ep, d)
  simpa [Function.comp_def] using hkeys

/-- A destination is counted once for each table that names it. -/
theorem count_destinations (hno : tables.NoDuplicates) (destination : Destination) :
    (tables.destinations clusterId ep).count destination =
      (if tables.ByGroup ep destination then 1 else 0) +
        (if tables.ByBinding clusterId ep destination then 1 else 0) := by
  rw [ApsTables.destinations, List.count_append, (groups_nodup hno).count,
    (bindings_nodup hno).count]
  rfl

/-- How many commands a destination is sent: one for each table that names it. -/
theorem commandsTo_of_requests {sent : List ZclCmd} {cmd : UInt8} {cmdPld : List UInt8}
    (hno : tables.NoDuplicates)
    (hsent : sent.map ZclCmd.request = (tables.destinations clusterId ep).map
      fun destination => destination.request ep clusterId cmd cmdPld)
    (destination : Destination) :
    commandsTo sent destination =
      (if tables.ByGroup ep destination then 1 else 0) +
        (if tables.ByBinding clusterId ep destination then 1 else 0) := by
  have hmap : (sent.map fun c => c.dstEpInfo.destination) =
      (tables.destinations clusterId ep).map some := by
    calc
      (sent.map fun c => c.dstEpInfo.destination)
          = (sent.map ZclCmd.request).map Request.destination := by
        simp [Function.comp_def, ZclCmd.request]
      _ = (tables.destinations clusterId ep).map some := by
        rw [hsent]
        simp [Function.comp_def, Destination.request]
  rw [commandsTo, hmap, List.count_map_of_injective _ _ (Option.some_injective _),
    count_destinations hno]

end Tables

/-! ## Toggle and step -/

/-- How often one call for a cluster and an endpoint reaches a destination. -/
structure OncePerTable (tables : ApsTables) (clusterId : UInt16) (ep : UInt8)
    (sent : List ZclCmd) : Prop where
  once : ∀ destination, ¬(tables.ByGroup ep destination ∧
    tables.ByBinding clusterId ep destination) → commandsTo sent destination ≤ 1
  twice : ∀ destination, tables.ByGroup ep destination →
    tables.ByBinding clusterId ep destination → commandsTo sent destination = 2
  extended : ∀ extAddr dstEp, commandsTo sent (.extended extAddr dstEp) ≤ 1

theorem oncePerTable_of_requests {tables : ApsTables} {clusterId : UInt16} {ep cmd : UInt8}
    {sent : List ZclCmd} {cmdPld : List UInt8} (hno : tables.NoDuplicates)
    (hsent : sent.map ZclCmd.request = (tables.destinations clusterId ep).map
      fun destination => destination.request ep clusterId cmd cmdPld) :
    OncePerTable tables clusterId ep sent := by
  have hcount := commandsTo_of_requests hno hsent
  constructor
  · intro destination hboth
    rw [hcount]
    by_cases hgroup : tables.ByGroup ep destination
    · have hbinding : ¬tables.ByBinding clusterId ep destination := fun hb => hboth ⟨hgroup, hb⟩
      simp [hgroup, hbinding]
    · rw [if_neg hgroup]
      split <;> simp
  · intro destination hgroup hbinding
    rw [hcount, if_pos hgroup, if_pos hbinding]
  · intro extAddr dstEp
    -- a group is never an extended address
    have hgroup : ¬tables.ByGroup ep (.extended extAddr dstEp) := by
      simp [ApsTables.ByGroup]
    rw [hcount, if_neg hgroup]
    split <;> simp

/-- One call of {lit}`remoteCmdOnOff` with {lit}`TOGGLE` or of {lit}`app_level_step`
sends a destination one command at most.  The exception is a group of the endpoint which
the endpoint is bound to for the command's cluster: it is sent two. -/
theorem remote_destinations (tables : ApsTables) (hno : tables.NoDuplicates)
    (ep up_down size : UInt8) :
    OncePerTable tables ZCL_CLUSTER_GEN_ON_OFF ep
        (remoteCmdOnOff tables ep ZCL_CMD_ONOFF_TOGGLE) ∧
      OncePerTable tables ZCL_CLUSTER_GEN_LEVEL_CONTROL ep
        (appLevelStep tables ep up_down size) := by
  rcases remote_fan_out tables {} (fun _ => 0) ep with ⟨honoff, -, -, -, hstep⟩
  constructor
  · have htoggle := honoff ZCL_CMD_ONOFF_TOGGLE
    rw [if_pos (.inr (.inr rfl))] at htoggle
    exact oncePerTable_of_requests hno htoggle
  · exact oncePerTable_of_requests hno (hstep up_down size)

/-! ## An endpoint that is in a group and bound to it -/

/-- The bytes of the group address 1. -/
def groupOneAddr : Vector UInt8 9 := Vector.ofFn fun i => if i.val = 0 then 1 else 0

/-- Endpoint 1 is in group 1 and is bound to it with both clusters. -/
def groupAndBinding : ApsTables where
  aps_group_tbl := (Vector.replicate _ ⟨APS_INVALID_GRP_ADDR, Vector.replicate _ 0xFF, 0⟩).set 0
    ⟨1, (Vector.replicate _ 0xFF).set 0 APP_ENDPOINT1 (by decide), 1⟩ (by decide)
  aps_group_entry_num := 1
  g_apsBindingTbl := ((Vector.replicate _ ⟨0, 0, 0, Vector.replicate 9 0, 0⟩).set 0
    ⟨ZCL_CLUSTER_GEN_ON_OFF, APP_ENDPOINT1, APS_SHORT_GROUPADDR_NOEP, groupOneAddr, 1⟩
    (by decide)).set 1
    ⟨ZCL_CLUSTER_GEN_LEVEL_CONTROL, APP_ENDPOINT1, APS_SHORT_GROUPADDR_NOEP, groupOneAddr, 1⟩
    (by decide)

theorem groupAndBinding_noDuplicates : groupAndBinding.NoDuplicates := by
  decide +kernel

/-- Neither table has a duplicate, and the group is sent the toggle and the step twice. -/
theorem group_and_binding_sent_twice :
    groupAndBinding.NoDuplicates ∧
      commandsTo (remoteCmdOnOff groupAndBinding APP_ENDPOINT1 ZCL_CMD_ONOFF_TOGGLE)
        (.group 1) = 2 ∧
      commandsTo (appLevelStep groupAndBinding APP_ENDPOINT1 LEVEL_MOVE_UP 10) (.group 1) = 2 := by
  refine ⟨groupAndBinding_noDuplicates, ?_, ?_⟩
  · decide +kernel
  · decide +kernel

/-- The same, and endpoint 1 is bound to endpoint 1 of a light with the address 7. -/
def boundLight : ApsTables :=
  { groupAndBinding with
    g_apsBindingTbl := groupAndBinding.g_apsBindingTbl.set 2
      ⟨ZCL_CLUSTER_GEN_LEVEL_CONTROL, APP_ENDPOINT1, APS_LONG_DSTADDR_WITHEP,
        Vector.ofFn fun i => if i.val = 0 then 7 else if i.val = 8 then 1 else 0, 1⟩ (by decide) }

/-- The address of that light. -/
def lightAddr : Vector UInt8 8 := Vector.ofFn fun i => if i.val = 0 then 7 else 0

theorem boundLight_noDuplicates : boundLight.NoDuplicates := by
  decide +kernel

/-- The light, which is only bound, is sent one step. -/
theorem remote_destinations_group_and_binding :
    boundLight.ByBinding ZCL_CLUSTER_GEN_LEVEL_CONTROL APP_ENDPOINT1 (.extended lightAddr 1) ∧
      0 < commandsTo (appLevelStep boundLight APP_ENDPOINT1 LEVEL_MOVE_UP 10)
        (.extended lightAddr 1) ∧
      commandsTo (appLevelStep boundLight APP_ENDPOINT1 LEVEL_MOVE_UP 10)
        (.extended lightAddr 1) ≤ 1 := by
  refine ⟨by decide +kernel, by decide +kernel, ?_⟩
  exact (remote_destinations boundLight boundLight_noDuplicates APP_ENDPOINT1
    LEVEL_MOVE_UP 10).2.extended _ _

end Firmware
