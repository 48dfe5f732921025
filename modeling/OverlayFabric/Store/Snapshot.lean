import OverlayFabric.Json.Record
import OverlayFabric.Store.Basic

namespace OverlayFabric

def Decode.integer : Decode Int
  | .int value => some value
  | _ => none

namespace PoolRow

def encode (row : PoolRow) : Json := .arr [.option .str row.scope, .int row.id, .str row.owner]

def restore : Decode PoolRow
  | .arr [scope, id, owner] => do
      return ⟨← Decode.nullable .string scope, ← Decode.integer id, ← Decode.string owner⟩
  | _ => none

end PoolRow

namespace BindingRow

def save (row : BindingRow) : Json :=
  .object [
    ("binding_id", .nat row.number),
    ("switch_ip", .str row.switch),
    ("subnet_id", .str row.subnet),
    ("vlan_id", .int row.vlan),
    ("l2_segment_id", .int row.l2),
    ("configured", .bool row.configured),
    ("router_id", .str row.router),
    ("l3_segment_id", .int row.l3)]

def restore : Decode BindingRow := fun json => do
  let fields ← Fields.of? [] json
  let number ← fields.get "binding_id" .longWord
  let switch ← fields.get "switch_ip" .string
  let subnet ← fields.get "subnet_id" .string
  let vlan ← fields.get "vlan_id" .integer
  let l2 ← fields.get "l2_segment_id" .integer
  let configured ← fields.get "configured" .bool
  let router ← fields.get "router_id" .string
  let l3 ← fields.get "l3_segment_id" .integer
  return { number, switch, subnet, vlan, l2, configured, router, l3 }

end BindingRow

namespace Store

def save (store : Store) : Json :=
  .object [
    (Pool.l2Segment.table, .arr (store.l2.map PoolRow.encode)),
    (Pool.l3Segment.table, .arr (store.l3.map PoolRow.encode)),
    (Pool.borderVlan.table, .arr (store.border.map PoolRow.encode)),
    ("port_bindings", .arr (store.bindings.rows.map BindingRow.save)),
    ("next_binding_id", .nat store.bindings.next)]

def restore : Decode Store := fun json => do
  let fields ← Fields.of? [] json
  let l2 ← fields.get Pool.l2Segment.table (.list PoolRow.restore)
  let l3 ← fields.get Pool.l3Segment.table (.list PoolRow.restore)
  let border ← fields.get Pool.borderVlan.table (.list PoolRow.restore)
  let rows ← fields.get "port_bindings" (.list BindingRow.restore)
  let next ← fields.get "next_binding_id" .longWord
  return { l2, l3, border, bindings := .ofRows rows next }

end Store
end OverlayFabric
