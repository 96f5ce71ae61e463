/-!
# Why a catalog cannot be built
-/

namespace ToolGateway

/-- Why a catalog cannot be built from a service definition. -/
inductive CatalogError where
  | duplicateTool (service name : String)
  | duplicateResource (name : String)
deriving DecidableEq, Inhabited

def CatalogError.message : CatalogError → String
  | duplicateTool service name =>
    "Service " ++ service ++ " declares method " ++ name ++ " more than once"
  | duplicateResource name => "Resource type " ++ name ++ " is declared more than once"

end ToolGateway
