import PolicyServer.Json.Wire

/-! The names of documents. -/

namespace PolicyServer

/-- The name of a document, as the editor gave it. -/
structure DocumentUri where
  text : String
  deriving DecidableEq, Inhabited, Repr

instance : Wire DocumentUri := ⟨fun uri => .str uri.text, fun value => (Json.asString value).map (⟨·⟩)⟩

end PolicyServer
