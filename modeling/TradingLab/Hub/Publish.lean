import TradingLab.Relational.Dict

/-!
# Publishing a manifest

`handlePublish` of the hub, for requests whose manifest is well formed and validly signed. Each call
that a request makes may fail, which ends the request, and the requests of several publishers
interleave. The mirror is left out.
-/
namespace TradingLab.Publishing

open Relational

structure Document where
  manifestVersion : Nat
  body : String
deriving DecidableEq, Repr

/-- A row of `public.manifests`, without the columns that only repeat the document. -/
structure ManifestRow where
  manifestVersion : Nat
  sha256 : String
deriving DecidableEq, Repr

inductive Phase
  | uploadVersion
  | uploadCurrent
  | insert
deriving DecidableEq, Repr

structure Hub where
  rows : List ManifestRow := []
  versions : Dict Nat Document := []
  current : Option Document := none
  requests : Dict Nat (Document × Phase) := []

inductive PublishStep
  | read (request : Nat) (document : Document) (fails : Bool)
  | call (request : Nat) (fails : Bool)

variable (sha256 : String → String)

def Document.row (document : Document) : ManifestRow :=
  ⟨document.manifestVersion, sha256 document.body⟩

def maxManifestVersion (rows : List ManifestRow) : Option Nat :=
  (rows.map (·.manifestVersion)).max?

/-- The read, and the 409 for a version that is not newer. -/
def Hub.read (hub : Hub) (request : Nat) (document : Document) : Hub :=
  if (maxManifestVersion hub.rows).all (· < document.manifestVersion) then
    { hub with requests := hub.requests.put request (document, .uploadVersion) }
  else hub

/-- One call of a request. The insert also fails at a version that the table has, its primary
    key. -/
def Hub.call (hub : Hub) (request : Nat) (document : Document) (fails : Bool) : Phase → Hub
  | .uploadVersion =>
    if fails then { hub with requests := hub.requests.erase request }
    else { hub with
      versions := hub.versions.put document.manifestVersion document
      requests := hub.requests.put request (document, .uploadCurrent) }
  | .uploadCurrent =>
    if fails then { hub with requests := hub.requests.erase request }
    else { hub with
      current := some document
      requests := hub.requests.put request (document, .insert) }
  | .insert =>
    let finished := { hub with requests := hub.requests.erase request }
    if fails ∨ hub.rows.any (·.manifestVersion = document.manifestVersion) then finished
    else { finished with rows := hub.rows ++ [document.row sha256] }

def Hub.step (hub : Hub) : PublishStep → Hub
  | .read request document fails =>
    -- A request is known by its number while it is in progress.
    if fails ∨ (hub.requests.get? request).isSome then hub else hub.read request document
  | .call request fails =>
    match hub.requests.get? request with
    | some (document, phase) => hub.call sha256 request document fails phase
    | none => hub

end TradingLab.Publishing
