import Mathlib.Order.Nat
import TradingLab.Hub.Publish
import TradingLab.Machine.Run

/-!
# The published `current.json`

The version is checked against the table before the two uploads, and the row is inserted after
them. Two requests that both pass the check can upload in the other order, and a failed insert
leaves a `current.json` that the table does not know of.
-/
namespace TradingLab.Publishing

open Relational Machine

variable {sha256 : String → String} {hub : Hub}

/-- `current.json` is the document of the highest version in the table. -/
def Latest (sha256 : String → String) (rows : List ManifestRow) : Option Document → Prop
  | none => rows = []
  | some document => document.row sha256 ∈ rows ∧
      ∀ row ∈ rows, row.manifestVersion ≤ document.manifestVersion

def version (current : Option Document) : Nat :=
  (current.map (·.manifestVersion)).getD 0

structure Published (sha256 : String → String) (steps : List PublishStep) : Prop where
  never_regresses : ∀ before step, before ++ [step] <+: steps →
    version (run (Hub.step sha256) {} before).current ≤
      version (run (Hub.step sha256) {} (before ++ [step])).current
  latest : ∀ before, before <+: steps → (run (Hub.step sha256) {} before).requests = [] →
    Latest sha256 (run (Hub.step sha256) {} before).rows (run (Hub.step sha256) {} before).current

/-- No request starts while another is in progress, and no insert fails. -/
def Careful (hub : Hub) : PublishStep → Prop
  | .read _ _ _ => hub.requests = []
  | .call request fails => ∀ document, hub.requests.get? request = some (document, .insert) →
      fails = false

/-! ### What careful steps keep -/

/-- The one request that may be in progress is newer than the table; once it has uploaded
    `current.json`, that is its document. -/
inductive Sound (sha256 : String → String) (hub : Hub) : Prop
  | idle (none_left : hub.requests = []) (latest : Latest sha256 hub.rows hub.current)
  | busy (request : Nat) (document : Document) (phase : Phase)
      (alone : hub.requests = [(request, document, phase)])
      (newer : ∀ row ∈ hub.rows, row.manifestVersion < document.manifestVersion)
      (current : if phase = .insert then hub.current = some document
        else Latest sha256 hub.rows hub.current)

theorem all_max_iff {rows : List ManifestRow} {bound : Nat} :
    (maxManifestVersion rows).all (· < bound) = true ↔ ∀ row ∈ rows,
      row.manifestVersion < bound := by
  unfold maxManifestVersion
  cases highest : (rows.map (·.manifestVersion)).max? with
  | none =>
    rw [List.max?_eq_none_iff, List.map_eq_nil_iff] at highest
    simp [highest]
  | some top =>
    obtain ⟨member, above⟩ := List.max?_eq_some_iff.mp highest
    obtain ⟨row, here, rfl⟩ := List.mem_map.mp member
    simp only [Option.all_some, decide_eq_true_eq]
    constructor
    · intro below other among
      exact lt_of_le_of_lt (above _ (List.mem_map_of_mem among)) below
    · intro below
      exact below row here

theorem version_le (latest : Latest sha256 hub.rows hub.current) {document : Document}
    (newer : ∀ row ∈ hub.rows, row.manifestVersion < document.manifestVersion) :
    version hub.current ≤ document.manifestVersion := by
  cases was : hub.current with
  | none => simp [version]
  | some old =>
    rw [was] at latest
    exact (newer _ latest.1).le

theorem Sound.step (sound : Sound sha256 hub) (step : PublishStep) (careful : Careful hub step) :
    Sound sha256 (hub.step sha256 step) ∧
      version hub.current ≤ version (hub.step sha256 step).current := by
  cases step with
  | read request document fails =>
    cases sound with
    | busy _ _ _ alone =>
      rw [careful] at alone
      cases alone
    | idle none_left latest =>
      simp only [Hub.step]
      split
      · exact ⟨.idle none_left latest, le_rfl⟩
      · unfold Hub.read
        split
        · rename_i newer
          refine ⟨.busy request document .uploadVersion ?_ (all_max_iff.mp newer) latest, le_rfl⟩
          simp [none_left, Dict.put]
        · exact ⟨.idle none_left latest, le_rfl⟩
  | call request fails =>
    simp only [Hub.step]
    split
    · rename_i document phase found
      cases sound with
      | idle none_left _ =>
        rw [none_left] at found
        cases found
      | busy owner of_owner stage alone newer current =>
        have same : owner = request ∧ of_owner = document ∧ stage = phase := by
          rw [alone, Dict.get?_cons] at found
          split at found
          · rename_i here
            cases found
            exact ⟨here, rfl, rfl⟩
          · cases found
        obtain ⟨rfl, rfl, rfl⟩ := same
        have removed : hub.requests.erase owner = [] := by simp [alone, Dict.erase]
        have next : ∀ phase, hub.requests.put owner (of_owner, phase) =
            [(owner, of_owner, phase)] := fun phase => by simp [alone, Dict.put]
        cases stage with
        | uploadVersion =>
          simp only [Hub.call]
          split
          · exact ⟨.idle removed current, le_rfl⟩
          · exact ⟨.busy owner of_owner .uploadCurrent (next _) newer current, le_rfl⟩
        | uploadCurrent =>
          simp only [Hub.call]
          split
          · exact ⟨.idle removed current, le_rfl⟩
          · exact ⟨.busy owner of_owner .insert (next _) newer rfl, version_le current newer⟩
        | insert =>
          have written : hub.current = some of_owner := current
          have fresh : ¬(fails = true ∨
              hub.rows.any (·.manifestVersion = of_owner.manifestVersion) = true) := by
            rw [careful of_owner found]
            simpa using fun row member => (newer row member).ne
          simp only [Hub.call, if_neg fresh]
          refine ⟨.idle removed ?_, le_rfl⟩
          simp only [written, Latest, List.mem_append, List.mem_singleton, or_true, true_and]
          rintro row (old | rfl)
          · exact (newer row old).le
          · exact le_rfl
    · exact ⟨sound, le_rfl⟩

theorem sound_of_guarded {steps : List PublishStep}
    (careful : Guarded (Hub.step sha256) Careful {} steps) :
    Sound sha256 (run (Hub.step sha256) {} steps) :=
  guarded_invariant (Sound sha256) (fun _ step sound allowed => (sound.step step allowed).1)
    (Sound.idle rfl (show Latest sha256 [] none from rfl)) careful

theorem published_of_careful (sha256 : String → String) (steps : List PublishStep)
    (careful : Guarded (Hub.step sha256) Careful {} steps) : Published sha256 steps where
  never_regresses := by
    rintro before step ⟨rest, rfl⟩
    have first := (guarded_append.mp careful).1
    obtain ⟨kept, here, -⟩ := guarded_append.mp first
    rw [run_append]
    exact ((sound_of_guarded kept).step step here).2
  latest := by
    rintro before ⟨rest, rfl⟩ quiet
    cases sound_of_guarded (guarded_append.mp careful).1 with
    | idle _ latest => exact latest
    | busy _ _ _ alone =>
      rw [quiet] at alone
      cases alone

namespace SamplePublish

def whole (request version : Nat) : List PublishStep :=
  [.read request ⟨version, "body"⟩ false, .call request false, .call request false,
    .call request false]

theorem two_in_turn_published : Published id (whole 1 1 ++ whole 2 2) :=
  published_of_careful id _ (by simp [whole, Guarded, Careful, Hub.step, Hub.read, Hub.call,
    maxManifestVersion, Dict.put, Dict.get?, Dict.erase, Document.row])

def failedInsert : List PublishStep :=
  [.read 1 ⟨2, "two"⟩ false, .call 1 false, .call 1 false, .call 1 true]

theorem current_regresses :
    (run (Hub.step id) {} failedInsert).current = some ⟨2, "two"⟩ ∧
      (run (Hub.step id) {} failedInsert).requests = [] ∧
      (run (Hub.step id) {} failedInsert).rows = [] ∧
      (run (Hub.step id) {} (failedInsert ++ whole 2 1)).current = some ⟨1, "body"⟩ ∧
      -- The same by two requests that both passed the check.
      (run (Hub.step id) {} [.read 1 ⟨1, "one"⟩ false, .read 2 ⟨2, "two"⟩ false, .call 1 false,
        .call 2 false, .call 2 false, .call 2 false, .call 1 false]).current = some ⟨1, "one"⟩ := by
  decide

end SamplePublish

end TradingLab.Publishing
