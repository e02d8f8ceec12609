import SerenRouter.Database
import SerenRouter.Service.Lookup

/-! The replies that need no sidecar: the catalog of a profile, the fixed account data, and the
health probes. -/
namespace SerenRouter
open Kernel Kernel.Json

def CatalogPricing.toValue (pricing : CatalogPricing) : Value :=
  .object [("completion",.string pricing.completion),("prompt",.string pricing.prompt)]

def CatalogModel.toValue (model : CatalogModel) : Value :=
  .object [("context_length",integerValue model.contextLength),("id",.string model.id),("name",.string model.name),
    ("pricing",model.pricing.toValue)]

def ModelsLinks.toValue (links : ModelsLinks) : Value := .object [("next",nullable .string links.next)]

def ModelsResponse.toValue (response : ModelsResponse) : Value :=
  .object [("data",.array (response.data.map CatalogModel.toValue)),("links",response.links.toValue),
    ("total_count",integerValue response.totalCount)]

def CatalogEndpoint.toValue (endpoint : CatalogEndpoint) : Value :=
  .object [("context_length",integerValue endpoint.contextLength),("model_id",.string endpoint.modelId),
    ("model_name",.string endpoint.modelName),("name",.string endpoint.name),("pricing",endpoint.pricing.toValue),
    ("provider_name",.string endpoint.providerName),("tag",.string endpoint.tag)]

def ModelEndpoints.toValue (endpoints : ModelEndpoints) : Value :=
  .object [("endpoints",.array (endpoints.endpoints.map CatalogEndpoint.toValue)),("id",.string endpoints.id),
    ("name",.string endpoints.name)]

def ModelEndpointsResponse.toValue (response : ModelEndpointsResponse) : Value :=
  .object [("data",response.data.toValue)]

def ErrorDetail.toValue (detail : ErrorDetail) : Value :=
  .object [("error",.object [("code",integerValue detail.code),("message",.string detail.message)])]

/-- The two routes to the endpoints of a model: its slug as one segment, or its author and the rest as two. -/
inductive ModelPath where
  | model (model : String)
  | author (author slug : String)

def ModelPath.slug : ModelPath → String
  | .model slug => slug
  | .author owner slug => owner ++ "/" ++ slug

namespace Catalog

def getModels (catalog : Catalog) (profile : RoutingProfile) : Except Panic Reply := do
  return jsonReply .ok (← catalog.snapshot profile).response.toValue

def getModelEndpoints (catalog : Catalog) (profile : RoutingProfile) (path : ModelPath) : Except Panic Reply := do
  match ← catalog.endpointResponse profile path.slug with
  | .ok response => return jsonReply .ok response.toValue
  | .error detail => return jsonReply .notFound detail.toValue

end Catalog

def getAuthKey : Reply :=
  jsonReply .ok (.object [("data",.object [("label",.string "seren-router"),("limit",.null)])])

def getCredits : Reply :=
  jsonReply .ok (.object [("data",.object [("total_credits",integerValue 0),("total_usage",integerValue 0)])])

/-- A text, as the framework sends it. -/
def hello : Reply := ⟨.ok,some (utf8 "text/plain; charset=utf-8"),none,.bytes (utf8 "Hello from Seren!"),none⟩

def livez : Reply := ⟨.ok,none,none,.bytes [],none⟩

def DatabaseStatus.asStr : DatabaseStatus → String
  | .starting => "starting"
  | .ready => "ok"
  | .degraded => "degraded"

def unavailable (databaseStatus : DatabaseStatus) : Reply :=
  jsonReply .serviceUnavailable (.object [("dependencies",.object [("database",.string databaseStatus.asStr),
      ("sidecar",.string "unavailable")]),("reason",.string "sidecar"),("status",.string "unavailable")])

/-- The status of the database is only reported; the answer of the sidecar decides. -/
def readyz (databaseStatus : DatabaseStatus) (sidecar : Option StatusCode) : Reply :=
  if sidecar.any StatusCode.isSuccess then
    jsonReply .ok (.object [("dependencies",.object [("database",.string databaseStatus.asStr),("sidecar",.string "ok")]),
      ("status",.string "ok")])
  else unavailable databaseStatus

end SerenRouter
