import TradingLab.Relational.FileTree

/-!
# The updater of the launcher

`UpdateManager.apply_signed_update`. An exception can end the backup, the staging and the copy at
any file. The signature, the digests, the exposure check and the answers of the integrity verifier
and the health checker are inputs. Failures of the rollback and symbolic links are left out.
-/
namespace TradingLab

open Relational

/-- `fnmatch.fnmatch(text, pattern)`, for patterns whose only special character is the star. -/
def fnmatch : List Char → List Char → Bool
  | '*' :: pattern, text => text.tails.any (fnmatch pattern ·)
  | c :: pattern, d :: text => c == d && fnmatch pattern text
  | [], [] => true
  | _, _ => false

def backupExcludePatterns : List String :=
  ["*.db*", "*.vault", "*.log", "data/*", "reports/*", "updates/*", ".git*", "__pycache__", "*.pyc"]

/-- The backup passes over a file whose relative path or name matches a pattern. -/
def isExcluded (rel : Path) : Bool :=
  backupExcludePatterns.any fun pattern =>
    fnmatch pattern.toList ("/".intercalate rel).toList ||
      fnmatch pattern.toList (rel.getLast?.getD "").toList

/-- `(dir / text).resolve()`. -/
def resolved (dir : Path) (text : String) : Path :=
  let parts := (text.toList.splitOn '/').map String.ofList
  parts.foldl (fun dir part =>
      if part = "" ∨ part = "." then dir else if part = ".." then dir.dropLast else dir ++ [part])
    (if text.toList.head? = some '/' then [] else dir)

/-! ### The call -/

/-- The arguments, with the entries of the package as `extractall` names them: relative paths that
    lead nowhere else. -/
structure UpdateCall (γ : Type) where
  app : Path
  updates : Path
  currentVersion : String
  targetVersion : String
  package : List (Path × γ)

structure UpdateSetting (γ : Type) where
  signatureValid : Bool
  packageMatches : Bool
  canApply : Bool
  /-- The order in which `rglob` comes to the files it finds, each of them once. -/
  visit : List Path → List Path
  visit_nodup : ∀ found, (visit found).Nodup
  mem_visit : ∀ found rel, rel ∈ visit found ↔ rel ∈ found
  /-- The number of files after which an exception ends the backup. -/
  backupStops : Option Nat
  stagingStops : Option Nat
  /-- The copy may also leave the next file with some other content. -/
  applyStops : Option (Nat × Option γ)
  /-- `verify_distribution(dir, …).is_valid`; `none` where it raises. -/
  verifyDistribution : Path → Files γ → Option Bool
  healthChecker : Option (Files γ → Option Bool)

abbrev Outcome (γ : Type) := Except String Unit × Files γ

namespace UpdateCall

variable {γ : Type} (call : UpdateCall γ) (given : UpdateSetting γ)

def backupDir : Path :=
  resolved (call.updates ++ ["backup"]) call.currentVersion

def stagingDir : Path :=
  resolved (call.updates ++ ["staging"]) call.targetVersion

variable (files : Files γ)

def backupCurrentVersion : Outcome γ :=
  let cleared := files.removeTree call.backupDir
  let rels := (given.visit (cleared.below call.app)).filter fun rel => !isExcluded rel
  match given.backupStops with
  | none => (.ok (), Files.copyAll call.app call.backupDir cleared rels)
  | some count => (.error "OSError", Files.copyAll call.app call.backupDir cleared
    (rels.take count))

def prepareStaging : Outcome γ :=
  let cleared := files.removeTree call.stagingDir
  let staged := Files.extractAll call.stagingDir cleared
  match given.stagingStops with
  | some count => (.error "OSError", staged (call.package.take count))
  | none =>
    let files := staged call.package
    if (Dict.get? files (call.stagingDir ++ ["release_manifest.json"])).isNone then (.ok (), files)
    else match given.verifyDistribution call.stagingDir files with
      | some true => (.ok (), files)
      | some false => (.error "STAGING_INTEGRITY_FAILED", files.removeTree call.stagingDir)
      | none => (.error "OSError", files)

def applyUpdate : Outcome γ :=
  let rels := given.visit (files.below call.stagingDir)
  match given.applyStops with
  | none => (.ok (), Files.copyAll call.stagingDir call.app files rels)
  | some (count, next) =>
    let copied := Files.copyAll call.stagingDir call.app files (rels.take count)
    match rels[count]?, next with
    | some rel, some content => (.error "OSError", Dict.put copied (call.app ++ rel) content)
    | _, _ => (.error "OSError", copied)

def isHealthy : Bool :=
  match given.healthChecker with
  | some checker => (checker files).getD false
  | none =>
    (Dict.get? files (call.app ++ ["release_manifest.json"])).isNone ||
      (given.verifyDistribution call.app files).getD false

def rollback : Files γ :=
  Files.copyAll call.backupDir call.app files (given.visit (files.below call.backupDir))

/-- The steps before the first file of the application is touched. -/
def prepare : Outcome γ :=
  if !given.signatureValid then (.error "UPDATE_SIGNATURE_INVALID", files)
  else if !given.packageMatches then (.error "PACKAGE_SHA256_MISMATCH", files)
  else if !given.canApply then (.error "UPDATE_BLOCKED_ACTIVE_EXPOSURE", files)
  else match call.backupCurrentVersion given files with
    | (.error reason, files) => (.error reason, files)
    | (.ok (), files) => call.prepareStaging given files

def applySignedUpdate : Outcome γ :=
  match call.prepare given files with
  | (.error reason, files) => (.error reason, files)
  | (.ok (), files) =>
    match call.applyUpdate given files with
    | (.error reason, files) => (.error reason, files)
    | (.ok (), files) =>
      if call.isHealthy given files then (.ok (), files.removeTree call.stagingDir)
      else
        (.error "POST_UPDATE_HEALTH_CHECK_FAILED",
          (call.rollback given files).removeTree call.stagingDir)

end UpdateCall

end TradingLab
