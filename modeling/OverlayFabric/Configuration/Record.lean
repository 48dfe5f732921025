import OverlayFabric.Configuration.Basic
import OverlayFabric.Json.Record

namespace OverlayFabric

def ControllerSettings.decode (rules : RecordRules) : Decode ControllerSettings := fun json => do
  let fields ← Fields.read? rules ["auth_uri", "username", "password", "dry_run", "timeout_secs",
    "retries", "retry_interval_ms"] json
  let default : ControllerSettings := {}
  let authUri ← fields.getD "auth_uri" .string default.authUri
  let username ← fields.getD "username" .string default.username
  let password ← fields.getD "password" .string default.password
  let dryRun ← fields.getD "dry_run" .bool default.dryRun
  let timeoutSeconds ← fields.getD "timeout_secs" .longWord default.timeoutSeconds
  let retries ← fields.getD "retries" .word default.retries
  let retryIntervalMs ← fields.getD "retry_interval_ms" .longWord default.retryIntervalMs
  return { authUri, username, password, dryRun, timeoutSeconds, retries, retryIntervalMs }

def DatabaseSettings.decode (rules : RecordRules) : Decode DatabaseSettings := fun json => do
  let fields ← Fields.read? rules ["path", "max_readers", "busy_timeout_ms"] json
  let default : DatabaseSettings := {}
  let path ← fields.getD "path" .string default.path
  let maxReaders ← fields.getD "max_readers" .word default.maxReaders
  let busyTimeoutMs ← fields.getD "busy_timeout_ms" .longWord default.busyTimeoutMs
  return { path, maxReaders, busyTimeoutMs }

def Decode.strings : Decode (List String) := .list .string

def SegmentPoolSettings.decode (rules : RecordRules) : Decode SegmentPoolSettings := fun json => do
  let fields ← Fields.read? rules ["l2_segment_ranges", "l3_segment_ranges"] json
  let l2Ranges ← fields.getD "l2_segment_ranges" .strings []
  let l3Ranges ← fields.getD "l3_segment_ranges" .strings []
  return { l2Ranges, l3Ranges }

def LeafSettings.decode (rules : RecordRules) : Decode LeafSettings := fun json => do
  let fields ← Fields.read? rules ["physnet", "host_ports_mapping"] json
  let physnet ← fields.getD "physnet" (.nullable .string) none
  let hostPorts ← fields.getD "host_ports_mapping" (.keyed .strings) .empty
  return { physnet, hostPorts }

def BorderSettings.decode (rules : RecordRules) : Decode BorderSettings := fun json => do
  let fields ← Fields.read? rules ["vlan_ranges", "physical_network_ports_mapping"] json
  let vlanRanges ← fields.getD "vlan_ranges" .strings []
  let physnetPorts ← fields.getD "physical_network_ports_mapping" (.keyed .strings) .empty
  return { vlanRanges, physnetPorts }

def Decode.allowedPhysnets (rules : RecordRules) : Decode (List String) := fun json => do
  let fields ← Fields.read? rules ["allowed_physnets"] json
  fields.getD "allowed_physnets" .strings []

def Configuration.decode (rules : RecordRules) : Decode Configuration := fun json => do
  let fields ← Fields.read? rules ["fabric", "database", "pools", "leaf_switches", "border_switches",
    "external_networks"] json
  let fabric ← fields.getD "fabric" (ControllerSettings.decode rules) {}
  let database ← fields.getD "database" (DatabaseSettings.decode rules) {}
  let pools ← fields.getD "pools" (SegmentPoolSettings.decode rules) {}
  let leafSwitches ← fields.getD "leaf_switches" (.keyed (LeafSettings.decode rules)) .empty
  let borderSwitches ← fields.getD "border_switches" (.keyed (BorderSettings.decode rules)) .empty
  let allowedPhysnets ← fields.getD "external_networks" (.allowedPhysnets rules) []
  return { fabric, database, pools, leafSwitches, borderSwitches, allowedPhysnets }

def ControllerSettings.encode (settings : ControllerSettings) : Json :=
  .object [
    ("auth_uri", .str settings.authUri),
    ("username", .str settings.username),
    ("password", .str settings.password),
    ("dry_run", .bool settings.dryRun),
    ("timeout_secs", .nat settings.timeoutSeconds),
    ("retries", .nat settings.retries),
    ("retry_interval_ms", .nat settings.retryIntervalMs)]

def DatabaseSettings.encode (settings : DatabaseSettings) : Json :=
  .object [
    ("path", .str settings.path),
    ("max_readers", .nat settings.maxReaders),
    ("busy_timeout_ms", .nat settings.busyTimeoutMs)]

def Json.strings (texts : List String) : Json := .arr (texts.map .str)

def SegmentPoolSettings.encode (settings : SegmentPoolSettings) : Json :=
  .object [
    ("l2_segment_ranges", .strings settings.l2Ranges),
    ("l3_segment_ranges", .strings settings.l3Ranges)]

def LeafSettings.encode (leaf : LeafSettings) : Json :=
  .object [
    ("physnet", .option .str leaf.physnet),
    ("host_ports_mapping", .keyed .strings leaf.hostPorts)]

def BorderSettings.encode (border : BorderSettings) : Json :=
  .object [
    ("vlan_ranges", .strings border.vlanRanges),
    ("physical_network_ports_mapping", .keyed .strings border.physnetPorts)]

def Configuration.encode (configuration : Configuration) : Json :=
  .object [
    ("fabric", configuration.fabric.encode),
    ("database", configuration.database.encode),
    ("pools", configuration.pools.encode),
    ("leaf_switches", .keyed LeafSettings.encode configuration.leafSwitches),
    ("border_switches", .keyed BorderSettings.encode configuration.borderSwitches),
    ("external_networks", .object [("allowed_physnets", .strings configuration.allowedPhysnets)])]

end OverlayFabric
