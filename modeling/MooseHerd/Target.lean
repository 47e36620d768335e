/-! The collections of resources that documents belong to. -/

namespace MooseHerd

/-- A collection: the resources of one type within one namespace. -/
structure Target where
  /-- The namespace of the resources. -/
  space : String := "default"
  group : String := "animals.com"
  version : String := "v1"
  plural : String := "mooses"
  deriving Repr, BEq, DecidableEq, Inhabited

namespace Target

def collectionPath (t : Target) : String :=
  "/apis/" ++ t.group ++ "/" ++ t.version ++ "/namespaces/" ++ t.space ++ "/" ++ t.plural

/-- The type of the resources, with its group. -/
def resourceType (t : Target) : String := t.plural ++ "." ++ t.group

end Target

end MooseHerd
