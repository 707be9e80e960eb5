import PageListeners.Error
import PageListeners.Settings
import PageListeners.Text.Utf8
import PageListeners.Toml.Document

/-!
# Settings documents

Settings are read from the top level of a TOML document. A setting that is not given keeps its
default, one that is given has a value of its own type, and any other entry is passed over if its
numbers have a machine form.
-/

namespace PageListeners.Settings

/-- Takes over one entry of a document. -/
def takeEntry? (s : Settings) (entry : String × Toml.Value) : Option Settings :=
  let v := entry.2
  match entry.1 with
  | "js_namespace" => v.text?.map ({ s with clientNamespace := · })
  | "callback_path" => v.text?.map ({ s with callbackPath := · })
  | "listener_param" => v.text?.map ({ s with listenerParam := · })
  | "page_param" => v.text?.map ({ s with pageParam := · })
  | "delegation_enabled" => v.bool?.map ({ s with delegationEnabled := · })
  | "default_request_timeout_ms" => (v.unsigned? 64).map ({ s with defaultTimeout := some · })
  | "escape_scripts" => v.bool?.map ({ s with escapeScripts := · })
  | _ => if v.fits then some s else none

def ofDocument (document : String) : Except Error Settings :=
  match (Toml.read? document).bind (·.foldlM takeEntry? {}) with
  | some s => .ok s
  | none => .error .malformedSettings

/-- The settings in the bytes of a file, if there is one. -/
def ofFile (content? : Option (List UInt8)) : Except Error Settings :=
  match content?.bind Text.fromUtf8? with
  | some document => ofDocument document
  | none => .error .unreadableSettings

end PageListeners.Settings
