import TuyaMiniSwitch.App.Switch
import TuyaMiniSwitch.App.ZclWrite

/-!
# Application - Remote commands

{lit}`remoteCmdOnOff` and the four functions of {lit}`app_level.c` send a command to
the groups of an endpoint and to its bindings.  They are copies of one function, which
reuses one destination structure: the address is a union, and what an entry does not
write stays there from the entry before.

Main results:

- Theorem {lit}`fanOut_requests`: what is sent, and where to.
- Theorem {lit}`remote_fan_out`: the five functions.
-/

namespace Firmware

/-! ## Constants -/

def HA_PROFILE_ID : UInt16 := 0x0104

def APS_SHORT_GROUPADDR_NOEP : UInt8 := 0x01

def APS_LONG_DSTADDR_WITHEP : UInt8 := 0x03

def APS_GROUP_TABLE_NUM : Nat := 8

def APS_BINDING_TABLE_NUM : Nat := 32

def APS_EP_NUM_IN_GROUP_TBL : Nat := 8

def APS_INVALID_GRP_ADDR : UInt16 := 0xFFFF

def APS_GROUP_EP_INVALID : UInt8 := 0xFF

def ZCL_CMD_LEVEL_MOVE_TO_LEVEL : UInt8 := 0x00

def ZCL_CMD_LEVEL_STOP : UInt8 := 0x03

def ZCL_CMD_LEVEL_MOVE_TO_LEVEL_WITH_ON_OFF : UInt8 := 0x04

def ZCL_CMD_LEVEL_MOVE_WITH_ON_OFF : UInt8 := 0x05

def ZCL_CMD_LEVEL_STEP_WITH_ON_OFF : UInt8 := 0x06

/-! ## Addresses -/

/-- {lit}`extAddr_t`. -/
abbrev ExtAddr : Type := Vector UInt8 8

/-- {lit}`tl_zb_addr_t`, a union: {lit}`shortAddr` lies in the first two bytes of
{lit}`extAddr`, the low byte first. -/
structure TlZbAddr where
  extAddr : ExtAddr := Vector.replicate 8 0
  deriving Repr, DecidableEq

/-- The byte pair of a short address. -/
def joinBytes (lo hi : UInt8) : UInt16 := lo.toUInt16 ||| (hi.toUInt16 <<< 8)

def TlZbAddr.shortAddr (addr : TlZbAddr) : UInt16 := joinBytes addr.extAddr[0] addr.extAddr[1]

/-- {lit}`shortAddr` is assigned: the other six bytes stay. -/
def TlZbAddr.setShortAddr (addr : TlZbAddr) (v : UInt16) : TlZbAddr where
  extAddr := (addr.extAddr.set 0 v.toUInt8).set 1 (v >>> 8).toUInt8

/-- {lit}`epInfo_t`, which {lit}`TL_SETSTRUCTCONTENT` fills with zeros. -/
structure EpInfo where
  dstAddr : TlZbAddr := {}
  profileId : UInt16 := 0
  aliasSrcAddr : UInt16 := 0
  useAlias : Bool := false
  aliasSeqNum : UInt8 := 0
  dstAddrMode : UInt8 := 0
  dstEp : UInt8 := 0
  txOptions : UInt8 := 0
  radius : UInt8 := 0
  deriving Repr, DecidableEq

/-! ## Tables -/

/-- {lit}`aps_group_tbl_ent_t`. -/
structure GroupEntry where
  group_addr : UInt16
  endpoints : Vector UInt8 APS_EP_NUM_IN_GROUP_TBL
  n_endpoints : Nat
  deriving Repr, DecidableEq

/-- {lit}`aps_binding_entry_t`.  The union of {lit}`groupAddr` and
{lit}`dstExtAddrInfo` is kept as its bytes. -/
structure BindingEntry where
  clusterId : UInt16
  srcEp : UInt8
  dstAddrMode : UInt8
  dst : Vector UInt8 9
  used : UInt8
  deriving Repr, DecidableEq

def BindingEntry.groupAddr (entry : BindingEntry) : UInt16 := joinBytes entry.dst[0] entry.dst[1]

/-- {lit}`dstExtAddrInfo.extAddr`. -/
def BindingEntry.extAddr (entry : BindingEntry) : ExtAddr := entry.dst.take 8

/-- {lit}`dstExtAddrInfo.dstEp`. -/
def BindingEntry.dstEp (entry : BindingEntry) : UInt8 := entry.dst[8]

/-- The group table and the binding table of the stack. -/
structure ApsTables where
  aps_group_tbl : Vector GroupEntry APS_GROUP_TABLE_NUM
  aps_group_entry_num : Nat
  g_apsBindingTbl : Vector BindingEntry APS_BINDING_TABLE_NUM

/-- {lit}`aps_group_list_get`. -/
def ApsTables.apsGroupListGet (tables : ApsTables) : List UInt16 :=
  (tables.aps_group_tbl.toList.filter fun entry => entry.group_addr ≠ APS_INVALID_GRP_ADDR).map
    (·.group_addr)

/-- The loops of {lit}`aps_group_search_by_addr` from an index on: {lit}`left` entries
that are taken remain to be looked at. -/
def searchByAddr (group_addr : UInt16) : Nat → List GroupEntry → Option GroupEntry
  | _, [] => none
  | 0, entry :: entries =>
      if group_addr = APS_INVALID_GRP_ADDR then
        (entry :: entries).find? fun entry => entry.group_addr = APS_INVALID_GRP_ADDR
      else
        none
  | left + 1, entry :: entries =>
      if entry.group_addr = APS_INVALID_GRP_ADDR then
        if group_addr = APS_INVALID_GRP_ADDR then some entry
        else searchByAddr group_addr (left + 1) entries
      else if entry.group_addr = group_addr then some entry
      else searchByAddr group_addr left entries

/-- {lit}`aps_group_search_by_addr`. -/
def ApsTables.apsGroupSearchByAddr (tables : ApsTables) (group_addr : UInt16) :
    Option GroupEntry :=
  searchByAddr group_addr tables.aps_group_entry_num tables.aps_group_tbl.toList

/-- The loops of {lit}`aps_group_ep_find` from an index on. -/
def epFind (endpoint : UInt8) : Nat → List UInt8 → Bool
  | _, [] => false
  | 0, ep :: eps =>
      if endpoint = APS_GROUP_EP_INVALID then (ep :: eps).contains APS_GROUP_EP_INVALID else false
  | left + 1, ep :: eps =>
      if ep = APS_GROUP_EP_INVALID then
        if endpoint = APS_GROUP_EP_INVALID then true else epFind endpoint (left + 1) eps
      else if ep = endpoint then true
      else epFind endpoint left eps

/-- {lit}`aps_group_ep_find`: whether the endpoint is found. -/
def GroupEntry.apsGroupEpFind (entry : GroupEntry) (endpoint : UInt8) : Bool :=
  epFind endpoint entry.n_endpoints entry.endpoints.toList

/-- {lit}`aps_group_search`. -/
def ApsTables.apsGroupSearch (tables : ApsTables) (groupAddr : UInt16) (endpoint : UInt8) :
    Option GroupEntry :=
  match tables.apsGroupSearchByAddr groupAddr with
  | none => none
  | some pEntry => if pEntry.apsGroupEpFind endpoint then some pEntry else none

/-! ## Commands -/

/-- What is given to {lit}`zcl_sendCmd`.  The direction, the manufacturer code and the
flag for the default response are the same for all commands here. -/
structure ZclCmd where
  srcEp : UInt8
  dstEpInfo : EpInfo
  clusterId : UInt16
  cmd : UInt8
  cmdPld : List UInt8
  deriving Repr, DecidableEq

/-- {lit}`moveToLvl_t` without the options, which are not present. -/
structure MoveToLvl where
  level : UInt8
  transitionTime : UInt16
  deriving Repr, DecidableEq

/-- {lit}`cmdOnOffSend`. -/
def cmdOnOffSend (ep : UInt8) (dstEpInfo : EpInfo) (command : UInt8) : List ZclCmd :=
  if command = ZCL_CMD_ONOFF_OFF then
    [⟨ep, dstEpInfo, ZCL_CLUSTER_GEN_ON_OFF, ZCL_CMD_ONOFF_OFF, []⟩]
  else if command = ZCL_CMD_ONOFF_ON then
    [⟨ep, dstEpInfo, ZCL_CLUSTER_GEN_ON_OFF, ZCL_CMD_ONOFF_ON, []⟩]
  else if command = ZCL_CMD_ONOFF_TOGGLE then
    [⟨ep, dstEpInfo, ZCL_CLUSTER_GEN_ON_OFF, ZCL_CMD_ONOFF_TOGGLE, []⟩]
  else
    []

/-- {lit}`zcl_level_move2level`. -/
def zclLevelMove2level (srcEp : UInt8) (dstEpInfo : EpInfo) (cmdId : UInt8)
    (move2Level : MoveToLvl) : ZclCmd :=
  ⟨srcEp, dstEpInfo, ZCL_CLUSTER_GEN_LEVEL_CONTROL, cmdId,
    [move2Level.level, move2Level.transitionTime.toUInt8,
      (move2Level.transitionTime >>> 8).toUInt8]⟩

/-- {lit}`zcl_level_move`. -/
def zclLevelMove (srcEp : UInt8) (dstEpInfo : EpInfo) (cmdId moveMode rate : UInt8) : ZclCmd :=
  ⟨srcEp, dstEpInfo, ZCL_CLUSTER_GEN_LEVEL_CONTROL, cmdId, [moveMode, rate]⟩

/-- {lit}`zcl_level_step`. -/
def zclLevelStep (srcEp : UInt8) (dstEpInfo : EpInfo) (cmdId stepMode stepSize : UInt8)
    (transitionTime : UInt16) : ZclCmd :=
  ⟨srcEp, dstEpInfo, ZCL_CLUSTER_GEN_LEVEL_CONTROL, cmdId,
    [stepMode, stepSize, transitionTime.toUInt8, (transitionTime >>> 8).toUInt8]⟩

/-- {lit}`zcl_level_stop`. -/
def zclLevelStop (srcEp : UInt8) (dstEpInfo : EpInfo) (cmdId : UInt8) : ZclCmd :=
  ⟨srcEp, dstEpInfo, ZCL_CLUSTER_GEN_LEVEL_CONTROL, cmdId, []⟩

/-! ## The loops -/

/-- The destination structure and the commands that are sent so far. -/
abbrev FanOut : Type := EpInfo × List ZclCmd

/-- The body of the loop over the groups. -/
def groupPass (tables : ApsTables) (ep : UInt8) (send : EpInfo → List ZclCmd) (s : FanOut)
    (groupAddr : UInt16) : FanOut :=
  match tables.apsGroupSearch groupAddr ep with
  | none => s
  | some grEntry =>
      let dstEpInfo := { s.1 with dstAddr := s.1.dstAddr.setShortAddr grEntry.group_addr }
      (dstEpInfo, s.2 ++ send dstEpInfo)

/-- The body of the loop over the bindings. -/
def bindPass (clusterId : UInt16) (ep : UInt8) (send : EpInfo → List ZclCmd) (s : FanOut)
    (bind_tbl : BindingEntry) : FanOut :=
  if bind_tbl.used ≠ 0 ∧ bind_tbl.clusterId = clusterId ∧ bind_tbl.srcEp = ep then
    let dstEpInfo := { s.1 with dstAddrMode := bind_tbl.dstAddrMode }
    let dstEpInfo :=
      if dstEpInfo.dstAddrMode = APS_SHORT_GROUPADDR_NOEP then
        { dstEpInfo with dstAddr := dstEpInfo.dstAddr.setShortAddr bind_tbl.groupAddr }
      else
        { dstEpInfo with
          dstAddrMode := APS_LONG_DSTADDR_WITHEP
          dstEp := bind_tbl.dstEp
          dstAddr := ⟨bind_tbl.extAddr⟩ }
    (dstEpInfo, s.2 ++ send dstEpInfo)
  else
    s

/-- The body that the five functions share: {lit}`send` is what they do with a
destination. -/
def fanOut (tables : ApsTables) (clusterId : UInt16) (ep : UInt8)
    (send : EpInfo → List ZclCmd) : List ZclCmd :=
  let dstEpInfo : EpInfo := {}
  let dstEpInfo := { dstEpInfo with profileId := HA_PROFILE_ID }
  let groupList := tables.apsGroupListGet
  let dstEpInfo := { dstEpInfo with dstAddrMode := APS_SHORT_GROUPADDR_NOEP }
  let (_, sent) := groupList.foldl (groupPass tables ep send) (dstEpInfo, [])
  let dstEpInfo : EpInfo := {}
  let dstEpInfo := { dstEpInfo with profileId := HA_PROFILE_ID }
  let (_, sent) := tables.g_apsBindingTbl.toList.foldl (bindPass clusterId ep send)
    (dstEpInfo, sent)
  sent

/-! ## The five functions -/

/-- {lit}`relay_settings.field[ep-1]`.  The arrays have the one element of endpoint 1;
what the expression reads for another endpoint lies outside of them and is left open. -/
def settingAt (field : UInt8) (outside : UInt8 → UInt8) (ep : UInt8) : UInt8 :=
  if ep = APP_ENDPOINT1 then field else outside ep

/-- {lit}`remoteCmdOnOff`. -/
def remoteCmdOnOff (tables : ApsTables) (ep command : UInt8) : List ZclCmd :=
  fanOut tables ZCL_CLUSTER_GEN_ON_OFF ep fun dstEpInfo => cmdOnOffSend ep dstEpInfo command

/-- The local variable {lit}`move2Level` of {lit}`app_move_to_level`. -/
def moveToLevel (relay_settings : RelaySettings) (outside : UInt8 → UInt8) (ep up_down : UInt8) :
    MoveToLvl where
  level :=
    if up_down ≠ 0 then settingAt relay_settings.levelMin outside ep
    else settingAt relay_settings.levelMax outside ep
  transitionTime := 25

/-- {lit}`app_move_to_level`. -/
def appMoveToLevel (tables : ApsTables) (relay_settings : RelaySettings)
    (outside : UInt8 → UInt8) (ep up_down : UInt8) : List ZclCmd :=
  let move2Level := moveToLevel relay_settings outside ep up_down
  fanOut tables ZCL_CLUSTER_GEN_LEVEL_CONTROL ep fun dstEpInfo =>
    if up_down = LEVEL_MOVE_UP then
      [zclLevelMove2level ep dstEpInfo ZCL_CMD_LEVEL_MOVE_TO_LEVEL_WITH_ON_OFF move2Level]
    else
      [zclLevelMove2level ep dstEpInfo ZCL_CMD_LEVEL_MOVE_TO_LEVEL move2Level]

/-- {lit}`app_level_move`. -/
def appLevelMove (tables : ApsTables) (relay_settings : RelaySettings)
    (outside : UInt8 → UInt8) (ep up_down : UInt8) : List ZclCmd :=
  let rate := settingAt relay_settings.defaultMoveRate outside ep
  fanOut tables ZCL_CLUSTER_GEN_LEVEL_CONTROL ep fun dstEpInfo =>
    [zclLevelMove ep dstEpInfo ZCL_CMD_LEVEL_MOVE_WITH_ON_OFF up_down rate]

/-- {lit}`app_level_stop`. -/
def appLevelStop (tables : ApsTables) (ep : UInt8) : List ZclCmd :=
  fanOut tables ZCL_CLUSTER_GEN_LEVEL_CONTROL ep fun dstEpInfo =>
    [zclLevelStop ep dstEpInfo ZCL_CMD_LEVEL_STOP]

/-- {lit}`app_level_step`. -/
def appLevelStep (tables : ApsTables) (ep up_down size : UInt8) : List ZclCmd :=
  fanOut tables ZCL_CLUSTER_GEN_LEVEL_CONTROL ep fun dstEpInfo =>
    [zclLevelStep ep dstEpInfo ZCL_CMD_LEVEL_STEP_WITH_ON_OFF up_down size 1]

/-! ## Where a command goes -/

/-- A destination as the address mode tells it. -/
inductive Destination where
  | group (groupAddr : UInt16)
  | extended (extAddr : ExtAddr) (dstEp : UInt8)
  deriving Repr, DecidableEq

/-- The part of the structure that the address mode makes valid. -/
def EpInfo.destination (info : EpInfo) : Option Destination :=
  if info.dstAddrMode = APS_SHORT_GROUPADDR_NOEP then
    some (.group info.dstAddr.shortAddr)
  else if info.dstAddrMode = APS_LONG_DSTADDR_WITHEP then
    some (.extended info.dstAddr.extAddr info.dstEp)
  else
    none

/-- A command without what the address mode makes meaningless. -/
structure Request where
  srcEp : UInt8
  destination : Option Destination
  profileId : UInt16
  txOptions : UInt8
  radius : UInt8
  useAlias : Bool
  clusterId : UInt16
  cmd : UInt8
  cmdPld : List UInt8
  deriving Repr, DecidableEq

def ZclCmd.request (c : ZclCmd) : Request where
  srcEp := c.srcEp
  destination := c.dstEpInfo.destination
  profileId := c.dstEpInfo.profileId
  txOptions := c.dstEpInfo.txOptions
  radius := c.dstEpInfo.radius
  useAlias := c.dstEpInfo.useAlias
  clusterId := c.clusterId
  cmd := c.cmd
  cmdPld := c.cmdPld

/-- The request of an endpoint to a destination. -/
def Destination.request (destination : Destination) (ep : UInt8) (clusterId : UInt16)
    (cmd : UInt8) (cmdPld : List UInt8) : Request where
  srcEp := ep
  destination := some destination
  profileId := HA_PROFILE_ID
  txOptions := 0
  radius := 0
  useAlias := false
  clusterId := clusterId
  cmd := cmd
  cmdPld := cmdPld

/-- The own address of a binding entry. -/
def BindingEntry.destination (entry : BindingEntry) : Destination :=
  if entry.dstAddrMode = APS_SHORT_GROUPADDR_NOEP then .group entry.groupAddr
  else .extended entry.extAddr entry.dstEp

/-- A used entry of a cluster and an endpoint. -/
def BindingEntry.IsFor (entry : BindingEntry) (clusterId : UInt16) (ep : UInt8) : Prop :=
  entry.used ≠ 0 ∧ entry.clusterId = clusterId ∧ entry.srcEp = ep

instance (entry : BindingEntry) (clusterId : UInt16) (ep : UInt8) :
    Decidable (entry.IsFor clusterId ep) :=
  inferInstanceAs (Decidable (_ ∧ _ ∧ _))

/-- The groups of an endpoint, in the order of the list. -/
def ApsTables.groupsOf (tables : ApsTables) (ep : UInt8) : List UInt16 :=
  tables.apsGroupListGet.filter fun groupAddr => (tables.apsGroupSearch groupAddr ep).isSome

/-- The bindings of a cluster and an endpoint, in the order of the table. -/
def ApsTables.bindingsOf (tables : ApsTables) (clusterId : UInt16) (ep : UInt8) :
    List BindingEntry :=
  tables.g_apsBindingTbl.toList.filter fun entry => entry.IsFor clusterId ep

/-- The destinations of a remote command. -/
def ApsTables.destinations (tables : ApsTables) (clusterId : UInt16) (ep : UInt8) :
    List Destination :=
  (tables.groupsOf ep).map Destination.group ++
    (tables.bindingsOf clusterId ep).map BindingEntry.destination

/-! ## One entry -/

@[simp] theorem joinBytes_split (v : UInt16) : joinBytes v.toUInt8 (v >>> 8).toUInt8 = v := by
  have hlt := v.toNat_lt
  have hlow : v.toNat % 256 < 2 ^ 8 := Nat.mod_lt _ (by decide)
  have hor := Nat.shiftLeft_add_eq_or_of_lt hlow (v.toNat / 256)
  have hhigh : v.toNat / 256 % 256 * 256 % 65536 = v.toNat / 256 * 256 := by omega
  apply UInt16.toNat_inj.mp
  simp only [joinBytes, UInt16.toNat_or, UInt8.toNat_toUInt16, UInt16.toNat_toUInt8,
    UInt16.toNat_shiftLeft, UInt16.toNat_shiftRight]
  simp only [Nat.shiftLeft_eq] at hor
  have hsum : v.toNat % 256 ||| v.toNat / 256 * 256 = v.toNat := by
    rw [Nat.or_comm, ← hor]
    omega
  simpa [Nat.shiftLeft_eq, Nat.shiftRight_eq_div_pow, hhigh] using hsum

@[simp] theorem shortAddr_setShortAddr (addr : TlZbAddr) (v : UInt16) :
    (addr.setShortAddr v).shortAddr = v := by
  simp [TlZbAddr.shortAddr, TlZbAddr.setShortAddr]

theorem searchByAddr_addr {group_addr : UInt16} {left : Nat} {entries : List GroupEntry}
    {entry : GroupEntry} (hfound : searchByAddr group_addr left entries = some entry) :
    entry.group_addr = group_addr := by
  fun_induction searchByAddr group_addr left entries with
  | case1 => cases hfound
  | case2 first rest hempty =>
      rw [hempty]
      have hmatch := List.find?_some hfound
      exact of_decide_eq_true hmatch
  | case3 => cases hfound
  | case4 left first rest hfree hempty =>
      rw [← Option.some.inj hfound, hfree, hempty]
  | case5 left first rest hfree hempty ih => exact ih hfound
  | case6 left first rest hfree heq =>
      rw [← Option.some.inj hfound]
      exact heq
  | case7 left first rest hfree hne ih => exact ih hfound

/-- The entry that is found is the one of the group that was asked for. -/
theorem apsGroupSearch_addr {tables : ApsTables} {groupAddr : UInt16} {ep : UInt8}
    {entry : GroupEntry} (hfound : tables.apsGroupSearch groupAddr ep = some entry) :
    entry.group_addr = groupAddr := by
  unfold ApsTables.apsGroupSearch at hfound
  split at hfound
  · cases hfound
  · rename_i pEntry hentry
    split at hfound
    · rw [← Option.some.inj hfound]
      exact searchByAddr_addr hentry
    · cases hfound

/-- The fields of the destination structure that no loop touches. -/
structure Prepared (info : EpInfo) : Prop where
  profileId : info.profileId = HA_PROFILE_ID
  txOptions : info.txOptions = 0
  radius : info.radius = 0
  useAlias : info.useAlias = false

theorem request_of_destination {info : EpInfo} {destination : Destination}
    (hinfo : Prepared info) (hdest : info.destination = some destination) (ep : UInt8)
    (clusterId : UInt16) (cmd : UInt8) (cmdPld : List UInt8) :
    ZclCmd.request ⟨ep, info, clusterId, cmd, cmdPld⟩ =
      destination.request ep clusterId cmd cmdPld := by
  simp [ZclCmd.request, Destination.request, hdest, hinfo.profileId, hinfo.txOptions,
    hinfo.radius, hinfo.useAlias]

section FanOut

variable {tables : ApsTables} {clusterId : UInt16} {ep cmd : UInt8} {cmdPld : List UInt8}
  {send : EpInfo → List ZclCmd}

/-- The destination structure of a group. -/
theorem groupPass_member (send : EpInfo → List ZclCmd) {s : FanOut} {groupAddr : UInt16}
    {grEntry : GroupEntry}
    (hinfo : Prepared s.1) (hmode : s.1.dstAddrMode = APS_SHORT_GROUPADDR_NOEP)
    (hentry : tables.apsGroupSearch groupAddr ep = some grEntry) :
    ∃ info, groupPass tables ep send s groupAddr = (info, s.2 ++ send info) ∧ Prepared info ∧
      info.dstAddrMode = APS_SHORT_GROUPADDR_NOEP ∧
      info.destination = some (.group groupAddr) := by
  have haddr := apsGroupSearch_addr hentry
  unfold groupPass
  rw [hentry]
  refine ⟨_, rfl, ?_, hmode, ?_⟩
  · exact ⟨hinfo.profileId, hinfo.txOptions, hinfo.radius, hinfo.useAlias⟩
  · simp [EpInfo.destination, hmode, haddr]

/-- The loop over the groups: a member is sent one command, at its own address. -/
theorem foldl_groupPass (hsend : ∀ info, send info = [⟨ep, info, clusterId, cmd, cmdPld⟩])
    (groupList : List UInt16) (s : FanOut) (hinfo : Prepared s.1)
    (hmode : s.1.dstAddrMode = APS_SHORT_GROUPADDR_NOEP) :
    (groupList.foldl (groupPass tables ep send) s).2.map ZclCmd.request =
      s.2.map ZclCmd.request ++
        (groupList.filter fun groupAddr => (tables.apsGroupSearch groupAddr ep).isSome).map
          fun groupAddr => (Destination.group groupAddr).request ep clusterId cmd cmdPld := by
  induction groupList generalizing s with
  | nil => simp
  | cons groupAddr groupList ih =>
      rw [List.foldl_cons]
      cases hentry : tables.apsGroupSearch groupAddr ep with
      | none =>
          have hpass : groupPass tables ep send s groupAddr = s := by
            simp [groupPass, hentry]
          rw [hpass, ih s hinfo hmode, List.filter_cons_of_neg (by simp [hentry])]
      | some grEntry =>
          rcases groupPass_member send hinfo hmode hentry with
            ⟨info, hpass, hnext, hmode', hdest⟩
          rw [hpass, ih _ hnext hmode', List.filter_cons_of_pos (by simp [hentry]), hsend,
            List.map_append, List.map_cons, List.map_nil,
            request_of_destination hnext hdest, List.map_cons, List.append_assoc,
            List.singleton_append]

/-- The destination structure of a binding does not depend on what was left in it. -/
theorem bindPass_isFor (send : EpInfo → List ZclCmd) {s : FanOut} {entry : BindingEntry}
    (hinfo : Prepared s.1) (hfor : entry.IsFor clusterId ep) :
    ∃ info, bindPass clusterId ep send s entry = (info, s.2 ++ send info) ∧ Prepared info ∧
      info.destination = some entry.destination := by
  unfold BindingEntry.IsFor at hfor
  unfold bindPass
  rw [if_pos hfor]
  by_cases hmode : entry.dstAddrMode = APS_SHORT_GROUPADDR_NOEP
  · refine ⟨_, rfl, ?_, ?_⟩
    · simp only [hmode]
      exact ⟨hinfo.profileId, hinfo.txOptions, hinfo.radius, hinfo.useAlias⟩
    · simp [EpInfo.destination, BindingEntry.destination, hmode]
  · refine ⟨_, rfl, ?_, ?_⟩
    · simp only [hmode]
      exact ⟨hinfo.profileId, hinfo.txOptions, hinfo.radius, hinfo.useAlias⟩
    · simp [EpInfo.destination, BindingEntry.destination, hmode]
      decide

/-- The loop over the bindings: an entry is sent one command, at its own address. -/
theorem foldl_bindPass (hsend : ∀ info, send info = [⟨ep, info, clusterId, cmd, cmdPld⟩])
    (entries : List BindingEntry) (s : FanOut) (hinfo : Prepared s.1) :
    (entries.foldl (bindPass clusterId ep send) s).2.map ZclCmd.request =
      s.2.map ZclCmd.request ++ (entries.filter fun entry => entry.IsFor clusterId ep).map
        fun entry => entry.destination.request ep clusterId cmd cmdPld := by
  induction entries generalizing s with
  | nil => simp
  | cons entry entries ih =>
      rw [List.foldl_cons]
      by_cases hfor : entry.IsFor clusterId ep
      · rcases bindPass_isFor send hinfo hfor with ⟨info, hpass, hnext, hdest⟩
        rw [hpass, ih _ hnext, List.filter_cons_of_pos (by simp [hfor]), hsend,
          List.map_append, List.map_cons, List.map_nil, request_of_destination hnext hdest,
          List.map_cons, List.append_assoc, List.singleton_append]
      · have hpass : bindPass clusterId ep send s entry = s := by
          unfold BindingEntry.IsFor at hfor
          unfold bindPass
          rw [if_neg hfor]
        rw [hpass, ih s hinfo, List.filter_cons_of_neg (by simp [hfor])]

/-- What is sent, and where to: the groups in the order of the list, then the bindings
in the order of the table. -/
theorem fanOut_requests (hsend : ∀ info, send info = [⟨ep, info, clusterId, cmd, cmdPld⟩]) :
    (fanOut tables clusterId ep send).map ZclCmd.request =
      (tables.destinations clusterId ep).map fun destination =>
        destination.request ep clusterId cmd cmdPld := by
  have hstart : Prepared { profileId := HA_PROFILE_ID } := ⟨rfl, rfl, rfl, rfl⟩
  have hgroup : Prepared
      { profileId := HA_PROFILE_ID, dstAddrMode := APS_SHORT_GROUPADDR_NOEP } :=
    ⟨rfl, rfl, rfl, rfl⟩
  simp only [fanOut]
  rw [foldl_bindPass hsend _ _ hstart, foldl_groupPass hsend _ _ hgroup rfl]
  simp [ApsTables.destinations, ApsTables.groupsOf, ApsTables.bindingsOf, Function.comp_def]

/-- A function that sends nothing to any destination sends nothing. -/
theorem fanOut_silent (hsend : ∀ info, send info = []) : fanOut tables clusterId ep send = [] := by
  have hgroups : ∀ (groupList : List UInt16) (s : FanOut), s.2 = [] →
      (groupList.foldl (groupPass tables ep send) s).2 = [] := by
    intro groupList
    induction groupList with
    | nil => exact fun s hs => hs
    | cons groupAddr groupList ih =>
        intro s hs
        apply ih
        unfold groupPass
        split
        · exact hs
        · simp [hs, hsend]
  have hbindings : ∀ (entries : List BindingEntry) (s : FanOut), s.2 = [] →
      (entries.foldl (bindPass clusterId ep send) s).2 = [] := by
    intro entries
    induction entries with
    | nil => exact fun s hs => hs
    | cons entry entries ih =>
        intro s hs
        apply ih
        unfold bindPass
        split
        · simp [hs, hsend]
        · exact hs
  apply hbindings
  apply hgroups
  rfl

end FanOut

/-- The transition time of {lit}`app_move_to_level` as it is sent. -/
theorem zclLevelMove2level_eq (relay_settings : RelaySettings) (outside : UInt8 → UInt8)
    (ep up_down cmdId : UInt8) (info : EpInfo) :
    zclLevelMove2level ep info cmdId (moveToLevel relay_settings outside ep up_down) =
      ⟨ep, info, ZCL_CLUSTER_GEN_LEVEL_CONTROL, cmdId,
        [(moveToLevel relay_settings outside ep up_down).level, 25, 0]⟩ := by
  have hlow : (25 : UInt16).toUInt8 = 25 := by
    decide
  have hhigh : ((25 : UInt16) >>> 8).toUInt8 = 0 := by
    decide
  simp only [zclLevelMove2level, moveToLevel, hlow, hhigh]

/-- One call of each of the five functions sends one command to every group of the
endpoint, in the order of the list, and then one to every binding of the command's
cluster and the endpoint, in the order of the table, each with its own address, and
nothing else. -/
theorem remote_fan_out (tables : ApsTables) (relay_settings : RelaySettings)
    (outside : UInt8 → UInt8) (ep : UInt8) :
    (∀ command, (remoteCmdOnOff tables ep command).map ZclCmd.request =
      if command = ZCL_CMD_ONOFF_OFF ∨ command = ZCL_CMD_ONOFF_ON ∨
          command = ZCL_CMD_ONOFF_TOGGLE then
        (tables.destinations ZCL_CLUSTER_GEN_ON_OFF ep).map fun destination =>
          destination.request ep ZCL_CLUSTER_GEN_ON_OFF command []
      else []) ∧
    (∀ up_down, (appMoveToLevel tables relay_settings outside ep up_down).map ZclCmd.request =
      (tables.destinations ZCL_CLUSTER_GEN_LEVEL_CONTROL ep).map fun destination =>
        destination.request ep ZCL_CLUSTER_GEN_LEVEL_CONTROL
          (if up_down = LEVEL_MOVE_UP then ZCL_CMD_LEVEL_MOVE_TO_LEVEL_WITH_ON_OFF
            else ZCL_CMD_LEVEL_MOVE_TO_LEVEL)
          [(moveToLevel relay_settings outside ep up_down).level, 25, 0]) ∧
    (∀ up_down, (appLevelMove tables relay_settings outside ep up_down).map ZclCmd.request =
      (tables.destinations ZCL_CLUSTER_GEN_LEVEL_CONTROL ep).map fun destination =>
        destination.request ep ZCL_CLUSTER_GEN_LEVEL_CONTROL ZCL_CMD_LEVEL_MOVE_WITH_ON_OFF
          [up_down, settingAt relay_settings.defaultMoveRate outside ep]) ∧
    (appLevelStop tables ep).map ZclCmd.request =
      ((tables.destinations ZCL_CLUSTER_GEN_LEVEL_CONTROL ep).map fun destination =>
        destination.request ep ZCL_CLUSTER_GEN_LEVEL_CONTROL ZCL_CMD_LEVEL_STOP []) ∧
    ∀ up_down size, (appLevelStep tables ep up_down size).map ZclCmd.request =
      (tables.destinations ZCL_CLUSTER_GEN_LEVEL_CONTROL ep).map fun destination =>
        destination.request ep ZCL_CLUSTER_GEN_LEVEL_CONTROL ZCL_CMD_LEVEL_STEP_WITH_ON_OFF
          [up_down, size, 1, 0] := by
  refine ⟨fun command => ?_, fun up_down => ?_, fun up_down => ?_, ?_, fun up_down size => ?_⟩
  · split
    · rename_i hcommand
      apply fanOut_requests
      intro info
      rcases hcommand with rfl | rfl | rfl <;> rfl
    · rename_i hunknown
      rw [not_or, not_or] at hunknown
      rcases hunknown with ⟨hoff, hon, htoggle⟩
      rw [remoteCmdOnOff, fanOut_silent, List.map_nil]
      intro info
      simp [cmdOnOffSend, hoff, hon, htoggle]
  · apply fanOut_requests
    intro info
    by_cases hup : up_down = LEVEL_MOVE_UP
    · rw [if_pos hup, if_pos hup, zclLevelMove2level_eq]
    · rw [if_neg hup, if_neg hup, zclLevelMove2level_eq]
  · apply fanOut_requests
    intro info
    rfl
  · apply fanOut_requests
    intro info
    rfl
  · apply fanOut_requests
    intro info
    rfl

end Firmware
