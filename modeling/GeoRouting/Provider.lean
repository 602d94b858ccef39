import GeoRouting.Act
import GeoRouting.Credentials

/-!
# Providers

There are three providers, one for each kind of backend. Each declares the credentials it
accepts; none declared means that it is used without any.
-/

namespace GeoRouting

inductive ProviderKind where
  | mock | ultradns | dynect
deriving DecidableEq, Repr

namespace ProviderKind

def all : List ProviderKind := [.mock, .ultradns, .dynect]

def name : ProviderKind → String
  | .mock => "mock"
  | .ultradns => "ultradns"
  | .dynect => "dynect"

end ProviderKind

/-- What a provider can do. -/
structure ProviderFeatures where
  /-- It has record sets with geographic routes. -/
  geo : Bool
deriving DecidableEq, Repr

structure ProviderInfo where
  kind : ProviderKind
  name : String
  description : String
  forms : List CredentialForm
  features : ProviderFeatures
deriving DecidableEq, Repr

namespace ProviderInfo

def of : ProviderKind → ProviderInfo
  | .mock => ⟨.mock, "Mock", "In-memory geo records for tests and demos", [], ⟨true⟩⟩
  | .ultradns =>
    ⟨.ultradns, "UltraDNS", "Directional pools with per-type record buckets",
      [⟨"password", ["username", "password"]⟩], ⟨true⟩⟩
  | .dynect =>
    ⟨.dynect, "DynECT", "Geo services answering region groups across zones",
      [⟨"password", ["customer", "username", "password"]⟩], ⟨true⟩⟩

def all : List ProviderInfo := ProviderKind.all.map of

def catalog (p : ProviderInfo) : CredentialCatalog := ⟨p.kind.name, p.forms⟩

end ProviderInfo

/-- The error for credentials that a provider does not accept. -/
def CredentialRejection.error (provider : String) (r : CredentialRejection) : GeoError :=
  .invalidArgument provider GeoError.credentialsParam r.message

/-- Opens a provider if the credentials fit one of its forms. -/
def ProviderKind.connect {σ : Type} (kind : ProviderKind) (supplied : Option Credentials) :
    Query σ Unit := do
  let catalog := (ProviderInfo.of kind).catalog
  match Credentials.check supplied (some catalog) with
  | .ok _ => Query.say .debug s!"[{catalog.provider}] provider created"
  | .error r =>
    Query.say .warn s!"[{catalog.provider}] rejected credentials: {r.message}"
    Query.fail (r.error catalog.provider)

open Json Decoder

namespace ProviderKind

def encode (k : ProviderKind) : Value := .text k.name

def decode : Decoder ProviderKind := choice (all.map fun k => (k.name, k))

end ProviderKind

namespace ProviderFeatures

def encode (f : ProviderFeatures) : Value := .object [("geo", .bool f.geo)]

def decode : Decoder ProviderFeatures := fun room t => do
  let [geo] ← slots ["geo"] 1 room t | none
  some { geo := ← needed .bool room geo }

end ProviderFeatures

namespace ProviderInfo

def encode (p : ProviderInfo) : Value :=
  .object [("id", p.kind.encode), ("name", .text p.name), ("description", .text p.description),
    ("credentialShapes", .array (p.forms.map CredentialForm.encode)),
    ("features", p.features.encode)]

def decode : Decoder ProviderInfo := fun room t => do
  let [kind, name, description, forms, features] ←
    slots ["id", "name", "description", "credentialShapes", "features"] 5 room t | none
  some {
    kind := ← needed ProviderKind.decode room kind
    name := ← needed .text room name
    description := ← needed .text room description
    forms := ← needed (list CredentialForm.decode) room forms
    features := ← needed ProviderFeatures.decode room features }

end ProviderInfo

end GeoRouting
