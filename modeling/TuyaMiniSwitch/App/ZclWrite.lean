import TuyaMiniSwitch.App.Device

/-!
# Application - Attribute writes and commands

The attribute tables of {lit}`app_endpoint_cfg.c`, the write handler of the ZCL
foundation, and the two handlers of {lit}`zcl_appCb.c` that reach the relay.  A
frame is first written to the attributes, record by record, and then given to
{lit}`app_zclWriteReqCmd`, which looks at the same records again.
-/

namespace Firmware

open OnOffLog

/-! ## Constants -/

def ZCL_CLUSTER_GEN_BASIC : UInt16 := 0x0000

def ZCL_CLUSTER_GEN_IDENTIFY : UInt16 := 0x0003

def ZCL_CLUSTER_GEN_GROUPS : UInt16 := 0x0004

def ZCL_CLUSTER_GEN_SCENES : UInt16 := 0x0005

def ZCL_CLUSTER_GEN_ON_OFF : UInt16 := 0x0006

def ZCL_CLUSTER_GEN_ON_OFF_SWITCH_CONFIG : UInt16 := 0x0007

def ZCL_CLUSTER_GEN_LEVEL_CONTROL : UInt16 := 0x0008

def ZCL_CLUSTER_GEN_MULTISTATE_INPUT_BASIC : UInt16 := 0x0012

def ZCL_ATTRID_ONOFF : UInt16 := 0x0000

def ZCL_ATTRID_GLOBAL_SCENE_CONTROL : UInt16 := 0x4000

def ZCL_ATTRID_ON_TIME : UInt16 := 0x4001

def ZCL_ATTRID_OFF_WAIT_TIME : UInt16 := 0x4002

def ZCL_ATTRID_START_UP_ONOFF : UInt16 := 0x4003

def ZCL_ATTRID_SWITCH_TYPE : UInt16 := 0x0000

def ZCL_ATTRID_SWITCH_ACTION : UInt16 := 0x0010

def CUSTOM_ATTRID_SWITCH_TYPE : UInt16 := 0xF000

def CUSTOM_ATTRID_DECOUPLED : UInt16 := 0xF001

def CUSTOM_ATTRID_DEVICE_MODEL : UInt16 := 0xF002

def ZCL_ATTRID_LEVEL_CURRENT_LEVEL : UInt16 := 0x0000

def ZCL_ATTRID_LEVEL_MIN_LEVEL : UInt16 := 0x0002

def ZCL_ATTRID_LEVEL_MAX_LEVEL : UInt16 := 0x0003

def ZCL_ATTRID_LEVEL_OPTIONS : UInt16 := 0x000F

def ZCL_ATTRID_LEVEL_ON_OFF_TRANSITION_TIME : UInt16 := 0x0010

def ZCL_ATTRID_LEVEL_DEFAULT_MOVE_RATE : UInt16 := 0x0014

def ZCL_DATA_TYPE_BOOLEAN : UInt8 := 0x10

def ZCL_DATA_TYPE_BITMAP8 : UInt8 := 0x18

def ZCL_DATA_TYPE_UINT8 : UInt8 := 0x20

def ZCL_DATA_TYPE_UINT16 : UInt8 := 0x21

def ZCL_DATA_TYPE_ENUM8 : UInt8 := 0x30

def ZCL_DATA_TYPE_CHAR_STR : UInt8 := 0x42

/-- The status of a ZCL function. -/
inductive ZclStatus where
  | ZCL_STA_SUCCESS
  | ZCL_STA_UNSUPPORTED_ATTRIBUTE
  | ZCL_STA_READ_ONLY
  | ZCL_STA_INVALID_DATA_TYPE
  deriving Repr, DecidableEq

/-! ## Attribute tables -/

/-- Where the data of an attribute lies: in one of the attributes that can
change, or in data that nothing writes. -/
inductive AttrData where
  | deviceEnable
  | identifyTime
  | outOfService
  | presentValue
  | onOff
  | globalSceneControl
  | onTime
  | offWaitTime
  | startUpOnOff
  | switchType
  | switchActions
  | custom_swtichType
  | custom_decoupled
  | custom_model
  | currentLevel
  | minLevel
  | maxLevel
  | options
  | defaultMoveRate
  | transitionTime
  | const
  deriving Repr, DecidableEq

/-- {lit}`zclAttrInfo_t`.  Of the access bits only the write permission is read
by the functions of this module. -/
structure AttrInfo where
  id : UInt16
  type : UInt8
  write : Bool
  data : AttrData
  deriving Repr, DecidableEq

/-- The last entry of every table. -/
def clusterRevision : AttrInfo := ⟨0xFFFD, ZCL_DATA_TYPE_UINT16, false, .const⟩

def basicAttrTbl : List AttrInfo :=
  [ ⟨0x0000, ZCL_DATA_TYPE_UINT8, false, .const⟩,
    ⟨0x0001, ZCL_DATA_TYPE_UINT8, false, .const⟩,
    ⟨0x0002, ZCL_DATA_TYPE_UINT8, false, .const⟩,
    ⟨0x0003, ZCL_DATA_TYPE_UINT8, false, .const⟩,
    ⟨0x0004, ZCL_DATA_TYPE_CHAR_STR, false, .const⟩,
    ⟨0x0005, ZCL_DATA_TYPE_CHAR_STR, false, .const⟩,
    ⟨0x0006, ZCL_DATA_TYPE_CHAR_STR, false, .const⟩,
    ⟨0x0007, ZCL_DATA_TYPE_ENUM8, false, .const⟩,
    ⟨0x0012, ZCL_DATA_TYPE_BOOLEAN, true, .deviceEnable⟩,
    ⟨0x4000, ZCL_DATA_TYPE_CHAR_STR, false, .const⟩,
    ⟨0x000E, ZCL_DATA_TYPE_CHAR_STR, false, .const⟩,
    clusterRevision ]

def identifyAttrTbl : List AttrInfo :=
  [ ⟨0x0000, ZCL_DATA_TYPE_UINT16, true, .identifyTime⟩,
    clusterRevision ]

def group1AttrTbl : List AttrInfo :=
  [ ⟨0x0000, ZCL_DATA_TYPE_BITMAP8, false, .const⟩,
    clusterRevision ]

def scene1AttrTbl : List AttrInfo :=
  [ ⟨0x0000, ZCL_DATA_TYPE_UINT8, false, .const⟩,
    ⟨0x0001, ZCL_DATA_TYPE_UINT8, false, .const⟩,
    ⟨0x0002, ZCL_DATA_TYPE_UINT16, false, .const⟩,
    ⟨0x0003, ZCL_DATA_TYPE_BOOLEAN, false, .const⟩,
    ⟨0x0004, ZCL_DATA_TYPE_BITMAP8, false, .const⟩,
    clusterRevision ]

def onOff1AttrTbl : List AttrInfo :=
  [ ⟨ZCL_ATTRID_ONOFF, ZCL_DATA_TYPE_BOOLEAN, false, .onOff⟩,
    ⟨ZCL_ATTRID_GLOBAL_SCENE_CONTROL, ZCL_DATA_TYPE_BOOLEAN, false, .globalSceneControl⟩,
    ⟨ZCL_ATTRID_ON_TIME, ZCL_DATA_TYPE_UINT16, true, .onTime⟩,
    ⟨ZCL_ATTRID_OFF_WAIT_TIME, ZCL_DATA_TYPE_UINT16, true, .offWaitTime⟩,
    ⟨ZCL_ATTRID_START_UP_ONOFF, ZCL_DATA_TYPE_ENUM8, true, .startUpOnOff⟩,
    clusterRevision ]

def onOffCfg1AttrTbl : List AttrInfo :=
  [ ⟨ZCL_ATTRID_SWITCH_TYPE, ZCL_DATA_TYPE_ENUM8, false, .switchType⟩,
    ⟨ZCL_ATTRID_SWITCH_ACTION, ZCL_DATA_TYPE_ENUM8, true, .switchActions⟩,
    ⟨CUSTOM_ATTRID_SWITCH_TYPE, ZCL_DATA_TYPE_ENUM8, true, .custom_swtichType⟩,
    ⟨CUSTOM_ATTRID_DECOUPLED, ZCL_DATA_TYPE_ENUM8, true, .custom_decoupled⟩,
    ⟨CUSTOM_ATTRID_DEVICE_MODEL, ZCL_DATA_TYPE_ENUM8, true, .custom_model⟩,
    clusterRevision ]

def msInput1AttrTbl : List AttrInfo :=
  [ ⟨0x0051, ZCL_DATA_TYPE_BOOLEAN, true, .outOfService⟩,
    ⟨0x0055, ZCL_DATA_TYPE_UINT16, true, .presentValue⟩,
    ⟨0x006F, ZCL_DATA_TYPE_BITMAP8, false, .const⟩,
    ⟨0x004A, ZCL_DATA_TYPE_UINT16, false, .const⟩,
    clusterRevision ]

def level1AttrTbl : List AttrInfo :=
  [ ⟨ZCL_ATTRID_LEVEL_CURRENT_LEVEL, ZCL_DATA_TYPE_UINT8, false, .currentLevel⟩,
    ⟨ZCL_ATTRID_LEVEL_MIN_LEVEL, ZCL_DATA_TYPE_UINT8, true, .minLevel⟩,
    ⟨ZCL_ATTRID_LEVEL_MAX_LEVEL, ZCL_DATA_TYPE_UINT8, true, .maxLevel⟩,
    ⟨ZCL_ATTRID_LEVEL_OPTIONS, ZCL_DATA_TYPE_BITMAP8, true, .options⟩,
    ⟨ZCL_ATTRID_LEVEL_DEFAULT_MOVE_RATE, ZCL_DATA_TYPE_UINT8, true, .defaultMoveRate⟩,
    ⟨ZCL_ATTRID_LEVEL_ON_OFF_TRANSITION_TIME, ZCL_DATA_TYPE_UINT16, true, .transitionTime⟩,
    clusterRevision ]

/-- {lit}`g_appClusterList1`: the clusters of endpoint 1 with their tables. -/
def appClusterList1 : List (UInt16 × List AttrInfo) :=
  [ (ZCL_CLUSTER_GEN_BASIC, basicAttrTbl),
    (ZCL_CLUSTER_GEN_IDENTIFY, identifyAttrTbl),
    (ZCL_CLUSTER_GEN_GROUPS, group1AttrTbl),
    (ZCL_CLUSTER_GEN_SCENES, scene1AttrTbl),
    (ZCL_CLUSTER_GEN_ON_OFF, onOff1AttrTbl),
    (ZCL_CLUSTER_GEN_ON_OFF_SWITCH_CONFIG, onOffCfg1AttrTbl),
    (ZCL_CLUSTER_GEN_MULTISTATE_INPUT_BASIC, msInput1AttrTbl),
    (ZCL_CLUSTER_GEN_LEVEL_CONTROL, level1AttrTbl) ]

/-! ## Writing attributes -/

/-- {lit}`zclWriteRec_t`.  The data is what lies behind the pointer
{lit}`attrData`. -/
structure WriteRec where
  attrID : UInt16
  dataType : UInt8
  attrData : Nat → UInt8

/-- A little-endian 16-bit value. -/
def buildU16 (data : Nat → UInt8) : UInt16 := (data 0).toUInt16 ||| ((data 1).toUInt16 <<< 8)

/-- {lit}`zcl_findAttribute`. -/
def zclFindAttribute (endpoint : UInt8) (clusterId attrId : UInt16) : Option AttrInfo :=
  if endpoint = APP_ENDPOINT1 then
    ((appClusterList1.find? fun cluster => cluster.1 == clusterId).map Prod.snd).bind
      fun attrTable => attrTable.find? fun attr => attr.id == attrId
  else
    none

/-- Copying a value to the data of an attribute. -/
def Attrs.store (attrs : Attrs) (data : AttrData) (val : Nat → UInt8) : Attrs :=
  match data with
  | .deviceEnable => { attrs with deviceEnable := val 0 }
  | .identifyTime => { attrs with identifyTime := buildU16 val }
  | .outOfService => { attrs with msInput := { attrs.msInput with out_of_service := val 0 } }
  | .presentValue => { attrs with msInput := { attrs.msInput with value := buildU16 val } }
  | .onOff => { attrs with onOff := { attrs.onOff with onOff := val 0 } }
  | .globalSceneControl =>
      { attrs with onOff := { attrs.onOff with globalSceneControl := val 0 } }
  | .onTime => { attrs with onOff := { attrs.onOff with onTime := buildU16 val } }
  | .offWaitTime => { attrs with onOff := { attrs.onOff with offWaitTime := buildU16 val } }
  | .startUpOnOff => { attrs with onOff := { attrs.onOff with startUpOnOff := val 0 } }
  | .switchType => { attrs with onOffCfg := { attrs.onOffCfg with switchType := val 0 } }
  | .switchActions => { attrs with onOffCfg := { attrs.onOffCfg with switchActions := val 0 } }
  | .custom_swtichType =>
      { attrs with onOffCfg := { attrs.onOffCfg with custom_swtichType := val 0 } }
  | .custom_decoupled =>
      { attrs with onOffCfg := { attrs.onOffCfg with custom_decoupled := val 0 } }
  | .custom_model => { attrs with onOffCfg := { attrs.onOffCfg with custom_model := val 0 } }
  | .currentLevel => { attrs with level := { attrs.level with currentLevel := val 0 } }
  | .minLevel => { attrs with level := { attrs.level with minLevel := val 0 } }
  | .maxLevel => { attrs with level := { attrs.level with maxLevel := val 0 } }
  | .options => { attrs with level := { attrs.level with options := val 0 } }
  | .defaultMoveRate => { attrs with level := { attrs.level with defaultMoveRate := val 0 } }
  | .transitionTime => { attrs with level := { attrs.level with transitionTime := buildU16 val } }
  | .const => attrs

/-- {lit}`zcl_attrWrite`: the status, and the attributes. -/
def zclAttrWrite (attrs : Attrs) (endpoint : UInt8) (clusterId : UInt16) (rec : WriteRec)
    (enable : Bool) : ZclStatus × Attrs :=
  match zclFindAttribute endpoint clusterId rec.attrID with
  | none => (.ZCL_STA_UNSUPPORTED_ATTRIBUTE, attrs)
  | some pAttrEntry =>
      if pAttrEntry.type ≠ rec.dataType then
        (.ZCL_STA_INVALID_DATA_TYPE, attrs)
      else if pAttrEntry.write = false then
        (.ZCL_STA_READ_ONLY, attrs)
      else if enable then
        (.ZCL_STA_SUCCESS, attrs.store pAttrEntry.data rec.attrData)
      else
        (.ZCL_STA_SUCCESS, attrs)

/-- What {lit}`zcl_writeHandler` does to the attributes: every record on its own. -/
def zclWriteHandler (attrs : Attrs) (endpoint : UInt8) (clusterId : UInt16)
    (attrList : List WriteRec) : Attrs :=
  attrList.foldl (fun attrs rec => (zclAttrWrite attrs endpoint clusterId rec true).2) attrs

/-! ## Handling written records -/

/-- A record of the On/Off cluster in {lit}`app_zclWriteReqCmd`: the device, and
whether the settings have to be saved. -/
def writeOnOffRec (s : Device × Bool) (rec : WriteRec) : Device × Bool :=
  let (d, save) := s
  if rec.attrID = ZCL_ATTRID_START_UP_ONOFF then
    let startup := rec.attrData 0
    if d.relay_settings.startUpOnOff ≠ startup then
      let d := { d with relay_settings := { d.relay_settings with startUpOnOff := startup } }
      let d := if startup > ZCL_START_UP_ONOFF_SET_ONOFF_TO_ON then d.statusOnoffSave else d
      (d, true)
    else
      (d, save)
  else
    (d, save)

/-- The custom switch type in {lit}`app_zclWriteReqCmd`. -/
def writeSwitchTypeRec (s : Device × Bool) (type : UInt8) : Device × Bool :=
  let (d, save) := s
  if type ≥ ZCL_SWITCH_TYPE_TOGGLE ∧ type < ZCL_CUSTOM_SWITCH_TYPE_MAXNUM then
    if d.relay_settings.switchType ≠ type then
      let d := { d with
        relay_settings := { d.relay_settings with switchType := type }
        attrs := { d.attrs with onOffCfg := { d.attrs.onOffCfg with switchType := type } } }
      let d :=
        if type ≥ ZCL_SWITCH_TYPE_MULTIFUNCTION then
          let d := cmdOnOffOff d
          { d with
            relay_settings :=
              { d.relay_settings with switch_decoupled := CUSTOM_SWITCH_DECOUPLED_ON }
            attrs := { d.attrs with
              onOffCfg := { d.attrs.onOffCfg with
                custom_decoupled := CUSTOM_SWITCH_DECOUPLED_ON } } }
        else d
      (d, true)
    else
      (d, save)
  else
    (d, save)

/-- The switch action in {lit}`app_zclWriteReqCmd`. -/
def writeSwitchActionRec (s : Device × Bool) (action : UInt8) : Device × Bool :=
  let (d, save) := s
  if d.relay_settings.switchActions ≠ action then
    ({ d with relay_settings := { d.relay_settings with switchActions := action } }, true)
  else
    (d, save)

/-- The custom decoupled attribute in {lit}`app_zclWriteReqCmd`. -/
def writeDecoupledRec (s : Device × Bool) (decoupled : UInt8) : Device × Bool :=
  let (d, save) := s
  if d.relay_settings.switch_decoupled ≠ decoupled then
    let d := cmdOnOffOff d
    if decoupled = CUSTOM_SWITCH_DECOUPLED_OFF ∧
        d.relay_settings.switchType ≥ ZCL_SWITCH_TYPE_MULTIFUNCTION then
      let decoupled := CUSTOM_SWITCH_DECOUPLED_ON
      let d := { d with
        attrs := { d.attrs with
          onOffCfg := { d.attrs.onOffCfg with custom_decoupled := decoupled } } }
      ({ d with relay_settings := { d.relay_settings with switch_decoupled := decoupled } }, true)
    else
      ({ d with relay_settings := { d.relay_settings with switch_decoupled := decoupled } }, true)
  else
    (d, save)

/-- A record of the switch configuration cluster in {lit}`app_zclWriteReqCmd`. -/
def writeOnOffCfgRec (s : Device × Bool) (rec : WriteRec) : Device × Bool :=
  if rec.attrID = CUSTOM_ATTRID_SWITCH_TYPE then
    writeSwitchTypeRec s (rec.attrData 0)
  else if rec.attrID = ZCL_ATTRID_SWITCH_ACTION then
    writeSwitchActionRec s (rec.attrData 0)
  else if rec.attrID = CUSTOM_ATTRID_DECOUPLED then
    writeDecoupledRec s (rec.attrData 0)
  else
    s

/-- A record of the level cluster in {lit}`app_zclWriteReqCmd`. -/
def writeLevelRec (s : Device × Bool) (rec : WriteRec) : Device × Bool :=
  let (d, save) := s
  if rec.attrID = ZCL_ATTRID_LEVEL_DEFAULT_MOVE_RATE then
    ({ d with relay_settings := { d.relay_settings with defaultMoveRate := rec.attrData 0 } },
      true)
  else if rec.attrID = ZCL_ATTRID_LEVEL_MIN_LEVEL then
    ({ d with relay_settings := { d.relay_settings with levelMin := rec.attrData 0 } }, true)
  else if rec.attrID = ZCL_ATTRID_LEVEL_MAX_LEVEL then
    ({ d with relay_settings := { d.relay_settings with levelMax := rec.attrData 0 } }, true)
  else if rec.attrID = ZCL_ATTRID_LEVEL_ON_OFF_TRANSITION_TIME then
    ({ d with relay_settings := { d.relay_settings with transitionTime := buildU16 rec.attrData } },
      true)
  else
    (d, save)

/-- What {lit}`app_zclWriteReqCmd` does with a record, by cluster. -/
def writeRec (clusterId : UInt16) (s : Device × Bool) (rec : WriteRec) : Device × Bool :=
  if clusterId = ZCL_CLUSTER_GEN_ON_OFF then
    writeOnOffRec s rec
  else if clusterId = ZCL_CLUSTER_GEN_ON_OFF_SWITCH_CONFIG then
    writeOnOffCfgRec s rec
  else if clusterId = ZCL_CLUSTER_GEN_LEVEL_CONTROL then
    writeLevelRec s rec
  else
    s

/-- {lit}`app_zclWriteReqCmd`. -/
def appZclWriteReqCmd (d : Device) (epId : UInt8) (clusterId : UInt16)
    (attrList : List WriteRec) : Device :=
  if epId = APP_ENDPOINT1 then
    let (d, save) := attrList.foldl (writeRec clusterId) (d, false)
    if save then relaySettingsSave d else d
  else
    d

/-- A write command as {lit}`zcl_cmdHandler` handles it: the foundation writes the
attributes, then the application looks at the records. -/
def writeCommand (d : Device) (endpoint : UInt8) (clusterId : UInt16)
    (attrList : List WriteRec) : Device :=
  appZclWriteReqCmd { d with attrs := zclWriteHandler d.attrs endpoint clusterId attrList }
    endpoint clusterId attrList

/-! ## On/Off commands -/

/-- {lit}`app_onOffCb` for endpoint 1. -/
def appOnOffCb (d : Device) (cmdId : UInt8) : Device :=
  if cmdId = ZCL_CMD_ONOFF_ON then
    cmdOnOffOn d
  else if cmdId = ZCL_CMD_ONOFF_OFF then
    cmdOnOffOff d
  else if cmdId = ZCL_CMD_ONOFF_TOGGLE then
    cmdOnOffToggle d
  else if cmdId = ZCL_CMD_ON_WITH_RECALL_GLOBAL_SCENE then
    if d.attrs.onOff.globalSceneControl = 0 then
      { d with attrs := { d.attrs with
        onOff := { d.attrs.onOff with globalSceneControl := 1 } } }
    else d
  else
    d

end Firmware
