import OverlayFabric.Configuration.Record
import OverlayFabric.Toml.Reader
import OverlayFabric.Toml.Record

namespace OverlayFabric

inductive LoadFault where
  | unreadable
  | malformed
  deriving DecidableEq, Repr

namespace Configuration

def ofToml? (text : String) : Option Configuration := (Toml.ofText? text).bind (decode Toml.recordRules)

def ofFile (bytes : Option ByteArray) : Except LoadFault Configuration :=
  match bytes.bind String.fromUTF8? with
  | none => .error .unreadable
  | some text =>
      match ofToml? text with
      | some configuration => .ok configuration
      | none => .error .malformed

end Configuration
end OverlayFabric
