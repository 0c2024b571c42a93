import TradingLab.Manifests.Canonical
import TradingLab.Manifests.Client

/-!
# The history of the active manifest

The highest version seen lives in memory and in the cache file only: when the file was not written,
or is discarded at a restart, any older manifest is taken. And a `Date` header that cannot be read
skips the check of the expiry. A step keeps the manifest in use, or adopts a newer one from one of
the bodies offered to it.
-/
namespace TradingLab

open Relational Machine
open ManifestRecord ManifestValue
open Installation

variable {φ : Type} [Floating φ] {settings : ClientSettings} {i after : Installation φ}
  {raw : ByteArray} {now : Int} {readable removable : Bool} {record : ManifestRecord φ}

/-- A body, the `Date` header that came with it, and the local clock. -/
structure ManifestOffer where
  body : ByteArray
  date : Option String
  now : Int

def HttpResponse.offer (response : HttpResponse) (now : Int) : ManifestOffer :=
  ⟨response.body, Dict.get? response.headers "Date", now⟩

omit [Floating φ] in
def ClientStep.offers (settings : ClientSettings) (i : Installation φ) :
    ClientStep → List ManifestOffer
  | .accept raw dateHeader now _ => [⟨raw, dateHeader, now⟩]
  | .poll http _ _ now _ =>
    (http.toList.flatMap fun get =>
      (get 0 settings.primaryUrl i.requestHeaders).toList ++
        (get 1 settings.mirrorUrl i.requestHeaders).toList).map (·.offer now)
  | .restart now _ _ => i.cache.toList.map fun raw => ⟨raw, none, now⟩

/-- The check that a manifest should pass: against the header where it can be read, otherwise
    against the local clock with 24 hours of grace. -/
def ManifestOffer.Timely (settings : ClientSettings) (offer : ManifestOffer) (expiresAt : Int) :
    Prop :=
  match offer.date.map settings.readDate with
  | some (.epoch server) => server ≤ expiresAt
  | _ => offer.now ≤ expiresAt + offlineExpirationGrace

/-- The record is what the checks of the client make of the body. -/
def ManifestOffer.Gives (settings : ClientSettings) (offer : ManifestOffer)
    (record : ManifestRecord φ) : Prop :=
  ∃ document, settings.evaluate offer.body = .accepted document ∧
    record = fromDict document offer.body

/-! ### The two properties -/

/-- The manifest that is current after the step was not before it. A new process has none
    before it loads its cache. -/
def ClientStep.Introduces (settings : ClientSettings) (i : Installation φ) (step : ClientStep)
    (record : ManifestRecord φ) : Prop :=
  (i.step settings step).client.current = some record ∧
    match step with
    | .restart .. => True
    | _ => i.client.current ≠ some record

/-- Every manifest that comes into use has passed the check of its expiry. -/
def ExpiryChecked (settings : ClientSettings) (i : Installation φ) (step : ClientStep) : Prop :=
  ∀ record, step.Introduces settings i record →
    ∃ offer ∈ step.offers settings i, offer.Gives settings record ∧
      offer.Timely settings record.expiresAt

/-- Between two moments of the run at which there is a manifest, its version has not gone
    down; and every manifest that came into use was checked. -/
structure HistorySound (settings : ClientSettings) (i : Installation φ)
    (steps : List ClientStep) : Prop where
  versions : ∀ early late, early ++ late <+: steps → ∀ before after : ManifestRecord φ,
    (run (Installation.step settings) i early).client.current = some before →
    (run (Installation.step settings) i (early ++ late)).client.current = some after →
    before.manifestVersion ≤ after.manifestVersion
  expiry : ∀ earlier step, earlier ++ [step] <+: steps →
    ExpiryChecked settings (run (Installation.step settings) i earlier) step

/-- A header that cannot be read comes only with manifests within their grace. -/
def ReadsHeaders (settings : ClientSettings) (φ : Type) [Floating φ]
    (offers : List ManifestOffer) : Prop :=
  ∀ offer ∈ offers, ∀ header, offer.date = some header →
    settings.readDate header = .unusable → ∀ record : ManifestRecord φ,
    offer.Gives settings record → offer.now ≤ record.expiresAt + offlineExpirationGrace

/-- A restart finds the manifest in use, or a newer one, in the cache. -/
def Reloads (settings : ClientSettings) (i : Installation φ) (now : Int) (readable : Bool) : Prop :=
  ∀ record, i.client.current = some record → ∃ raw, i.cache = some raw ∧
    ∃ again : ManifestRecord φ, cached settings now readable raw = some again ∧
      record.manifestVersion ≤ again.manifestVersion

def KeepsHistory (settings : ClientSettings) (i : Installation φ) : ClientStep → Prop
  | .restart now readable _ => Reloads settings i now readable
  | step => ReadsHeaders settings φ (step.offers settings i)

/-! ### What a step does -/

structure Adopts (settings : ClientSettings) (offer : ManifestOffer) (i after : Installation φ)
    (record : ManifestRecord φ) : Prop where
  gives : offer.Gives settings record
  newer : ∀ current, i.client.current = some current →
    current.manifestVersion < record.manifestVersion
  unexpired : settings.expired offer.date offer.now record.expiresAt = some false
  current : after.client.current = some record

/-- The manifest in use stays, or a newer one of the offers takes its place. -/
def KeepsOrAdopts (settings : ClientSettings) (offers : List ManifestOffer)
    (i after : Installation φ) : Prop :=
  after.client.current = i.client.current ∨
    ∃ offer ∈ offers, ∃ record, Adopts settings offer i after record

variable {offers : List ManifestOffer}

theorem KeepsOrAdopts.mono {more : List ManifestOffer} {j : Installation φ}
    (moved : KeepsOrAdopts settings offers i after) (same : i.client.current = j.client.current)
    (subset : offers ⊆ more) : KeepsOrAdopts settings more j after := by
  rcases moved with kept | ⟨offer, member, record, adopted⟩
  · exact .inl (kept.trans same)
  · exact .inr ⟨offer, subset member, record, adopted.gives,
      fun current held => adopted.newer current (same.trans held), adopted.unexpired,
      adopted.current⟩

theorem accept_adopts (settings : ClientSettings) (raw : ByteArray) (date : Option String)
    (now : Int) (written : Bool) (i : Installation φ) :
    (∀ record, (i.accept settings raw date now written).1 ≠ .accepted record) ∧
        (i.accept settings raw date now written).2 = i ∨
      ∃ record, (i.accept settings raw date now written).1 = .accepted record ∧
        Adopts settings ⟨raw, date, now⟩ i (i.accept settings raw date now written).2 record := by
  unfold Installation.accept
  cases evaluated : (settings.evaluate raw : Evaluation φ) with
  | raised => exact .inl ⟨nofun, rfl⟩
  | rejected code => exact .inl ⟨nofun, rfl⟩
  | accepted document =>
    by_cases regressive : ∃ current ∈ i.client.current,
        (fromDict document raw).manifestVersion ≤ current.manifestVersion
    · simp only [if_pos regressive]
      exact .inl ⟨nofun, trivial⟩
    · simp only [if_neg regressive]
      cases verdict : settings.expired date now (fromDict document raw).expiresAt
        with
      | none => exact .inl ⟨nofun, rfl⟩
      | some expired =>
        cases expired with
        | true => exact .inl ⟨nofun, rfl⟩
        | false =>
          refine .inr ⟨_, rfl, ⟨document, evaluated, rfl⟩, ?_, verdict, rfl⟩
          intro current held
          by_contra older
          exact regressive ⟨current, held, Int.not_lt.mp older⟩

theorem accept_takes {date : Option String} {written : Bool} {document : ManifestObject φ}
    (evaluated : settings.evaluate raw = .accepted document)
    (newer : ∀ current, i.client.current = some current →
      current.manifestVersion < (fromDict document raw).manifestVersion)
    (unexpired : settings.expired date now (fromDict document raw).expiresAt =
      some false) :
    i.step settings (.accept raw date now written) =
      { client := { i.client with current := some (fromDict document raw) }
        cache := if written then some raw else i.cache } := by
  have progressive : ¬ ∃ current ∈ i.client.current,
      (fromDict document raw).manifestVersion ≤ current.manifestVersion := by
    rintro ⟨current, held, older⟩
    exact absurd (newer current held) (Int.not_lt.mpr older)
  simp only [Installation.step, Installation.accept, evaluated, if_neg progressive, unexpired]

theorem accept_moves (raw : ByteArray) (date : Option String) (now : Int) (written : Bool)
    (i : Installation φ) :
    KeepsOrAdopts settings [⟨raw, date, now⟩] i (i.accept settings raw date now written).2 := by
  rcases accept_adopts settings raw date now written i with ⟨-, kept⟩ | ⟨record, -, adopted⟩
  · exact .inl (congrArg (fun after => after.client.current) kept)
  · exact .inr ⟨_, List.mem_singleton_self _, record, adopted⟩

theorem pollAddress_moves (settings : ClientSettings) (answer : Option HttpResponse) (now : Int)
    (written : Bool) (i : Installation φ) :
    KeepsOrAdopts settings (answer.toList.map (·.offer now)) i
        (i.pollAddress settings answer now written).2 ∧
      ((i.pollAddress settings answer now written).1 = none →
        (i.pollAddress settings answer now written).2 = i) := by
  cases answer with
  | none => exact ⟨.inl rfl, fun _ => rfl⟩
  | some response =>
    unfold pollAddress
    by_cases notModified : response.statusCode = 304
    · simp only [if_pos notModified]
      exact ⟨.inl rfl, fun ended => by cases ended⟩
    by_cases success : response.statusCode = 200
    · simp only [if_neg notModified, if_pos success]
      have outcome := accept_adopts settings response.body (Dict.get? response.headers "Date") now
        written i
      -- Only an accepted body changes the installation, and it ends the poll.
      cases result : i.accept settings response.body (Dict.get? response.headers "Date") now
          written with
      | mk acceptance after =>
        rw [result] at outcome
        cases acceptance with
        | raised =>
          rcases outcome with ⟨-, kept⟩ | ⟨_, same, -⟩
          · exact ⟨.inl (congrArg (fun after => after.client.current) kept), fun _ => kept⟩
          · cases same
        | rejected code =>
          rcases outcome with ⟨-, kept⟩ | ⟨_, same, -⟩
          · exact ⟨.inl (congrArg (fun after => after.client.current) kept),
              fun ended => by cases ended⟩
          · cases same
        | accepted record =>
          obtain ⟨_, -, adopted⟩ := outcome.resolve_left fun unmoved => unmoved.1 record rfl
          exact ⟨.inr ⟨_, List.mem_singleton_self _, _,
            adopted.gives, adopted.newer, adopted.unexpired, adopted.current⟩,
            fun ended => by cases ended⟩
    · simp only [if_neg notModified, if_neg success]
      exact ⟨.inl rfl, fun _ => trivial⟩

theorem poll_moves (http : Option HttpTransport) (force : Bool) (monotonic : ℚ) (now : Int)
    (written : Bool) (i : Installation φ) :
    KeepsOrAdopts settings
      (ClientStep.offers settings i (.poll http force monotonic now written)) i
      (i.poll settings http force monotonic now written).2 := by
  cases http with
  | none => exact .inl rfl
  | some get =>
    have primary : (get 0 settings.primaryUrl i.requestHeaders).toList.map (·.offer now) ⊆
        ClientStep.offers settings i (.poll (some get) force monotonic now written) := by
      simp [ClientStep.offers]
    have mirror : (get 1 settings.mirrorUrl i.requestHeaders).toList.map (·.offer now) ⊆
        ClientStep.offers settings i (.poll (some get) force monotonic now written) := by
      simp [ClientStep.offers]
    by_cases early : ¬ force ∧ ∃ last ∈ i.client.lastPoll, monotonic - last < settings.pollInterval
    · simp only [Installation.poll, if_pos early]
      exact .inl rfl
    · simp only [Installation.poll, if_neg early]
      set asking : Installation φ :=
        { i with client := { i.client with lastPoll := some monotonic } }
      obtain ⟨moved, unanswered⟩ := pollAddress_moves settings
        (get 0 settings.primaryUrl i.requestHeaders) now written asking
      cases first : asking.pollAddress settings (get 0 settings.primaryUrl i.requestHeaders) now
          written with
      | mk result after =>
        rw [first] at moved unanswered
        cases result with
        | some answer => exact moved.mono rfl primary
        | none =>
          -- The mirror is asked from the same installation.
          have same : after = asking := unanswered rfl
          have last := (pollAddress_moves settings (get 1 settings.mirrorUrl i.requestHeaders) now
            written after).1
          exact last.mono (congrArg (fun state => state.client.current) same) mirror

theorem restart_reloads
    (current : (i.restart settings now readable removable).client.current = some record) :
    ∃ raw, i.cache = some raw ∧ cached settings now readable raw = some record := by
  unfold Installation.restart at current
  split at current
  · cases current
  · rename_i raw cache
    split at current
    · rename_i loaded found
      exact ⟨raw, cache, found.trans current⟩
    · cases current

theorem restart_of_cached (cache : i.cache = some raw)
    (found : cached settings now readable raw = some record) :
    (i.restart settings now readable removable).client.current = some record := by
  simp only [Installation.restart, cache, found]

theorem cached_spec (found : cached settings now readable raw = some record) :
    (ManifestOffer.mk raw none now).Gives settings record ∧
      now ≤ record.expiresAt + offlineExpirationGrace := by
  unfold cached at found
  split at found
  · split at found
    · rename_i document evaluated
      dsimp only at found
      split at found
      · rename_i inTime
        cases found
        exact ⟨⟨document, evaluated, rfl⟩, inTime⟩
      · cases found
    · cases found
  · cases found

/-- There is still a manifest, with a version at least as high. -/
def NotOlder (i after : Installation φ) : Prop :=
  ∀ record, i.client.current = some record →
    ∃ next, after.client.current = some next ∧ record.manifestVersion ≤ next.manifestVersion

omit [Floating φ] in
theorem NotOlder.refl (i : Installation φ) : NotOlder i i :=
  fun record held => ⟨record, held, le_rfl⟩

omit [Floating φ] in
theorem NotOlder.trans {a b c : Installation φ} (first : NotOlder a b) (second : NotOlder b c) :
    NotOlder a c := by
  intro record held
  obtain ⟨middle, heldThen, upTo⟩ := first record held
  obtain ⟨last, heldLast, onward⟩ := second middle heldThen
  exact ⟨last, heldLast, upTo.trans onward⟩

theorem KeepsOrAdopts.notOlder
    (moved : KeepsOrAdopts settings offers i after) : NotOlder i after := by
  intro record held
  rcases moved with kept | ⟨offer, -, next, adopted⟩
  · exact ⟨record, kept.trans held, le_rfl⟩
  · exact ⟨next, adopted.current, (adopted.newer record held).le⟩

theorem step_notOlder (i : Installation φ) (step : ClientStep)
    (keeps : KeepsHistory settings i step) : NotOlder i (i.step settings step) := by
  cases step with
  | accept raw date now written => exact (accept_moves raw date now written i).notOlder
  | poll http force monotonic now written =>
    exact (poll_moves http force monotonic now written i).notOlder
  | restart now readable removable =>
    intro record held
    obtain ⟨raw, cache, again, found, upTo⟩ := keeps record held
    exact ⟨again, restart_of_cached cache found, upTo⟩

omit [Floating φ] in
theorem timely_of_unexpired {offer : ManifestOffer} {expiresAt : Int}
    (unexpired : settings.expired offer.date offer.now expiresAt = some false)
    (unread : ∀ header, offer.date = some header → settings.readDate header = .unusable →
      offer.now ≤ expiresAt + offlineExpirationGrace) : offer.Timely settings expiresAt := by
  unfold ClientSettings.expired at unexpired
  unfold ManifestOffer.Timely
  cases date : offer.date with
  | none => simpa [date] using unexpired
  | some header =>
    cases reading : settings.readDate header with
    | epoch server => simpa [date, reading] using unexpired
    | unusable => simpa [reading] using unread header date reading
    | raises => simp [date, reading] at unexpired

theorem KeepsOrAdopts.checked
    (moved : KeepsOrAdopts settings offers i after) (reads : ReadsHeaders settings φ offers)
      (current : after.client.current = some record) (introduced : i.client.current ≠ some record) :
    ∃ offer ∈ offers, offer.Gives settings record ∧ offer.Timely settings record.expiresAt := by
  rcases moved with kept | ⟨offer, member, adopted, adoption⟩
  · exact absurd (kept.symm.trans current) introduced
  · cases Option.some.inj (adoption.current.symm.trans current)
    exact ⟨offer, member, adoption.gives, timely_of_unexpired adoption.unexpired
      fun header date unusable => reads offer member header date unusable _ adoption.gives⟩

theorem step_expiryChecked (i : Installation φ) (step : ClientStep)
    (keeps : KeepsHistory settings i step) : ExpiryChecked settings i step := by
  intro record introduces
  obtain ⟨current, introduced⟩ := introduces
  cases step with
  | accept raw date now written =>
    exact (accept_moves raw date now written i).checked keeps current introduced
  | poll http force monotonic now written =>
    exact (poll_moves http force monotonic now written i).checked keeps current introduced
  | restart now readable removable =>
    obtain ⟨raw, cache, found⟩ := restart_reloads current
    obtain ⟨gives, inTime⟩ := cached_spec found
    exact ⟨⟨raw, none, now⟩, by simp [ClientStep.offers, cache], gives, inTime⟩

/-! ### Runs -/

/-- In every run whose restarts find the manifest in use, and whose unreadable headers come
    with manifests within their grace, the version never goes down and every manifest that
    comes into use was checked. -/
theorem history_sound (settings : ClientSettings) (i : Installation φ) (steps : List ClientStep)
    (guarded : Guarded (Installation.step settings) (KeepsHistory settings) i steps) :
    HistorySound settings i steps := by
  constructor
  · intro early late within before after heldBefore heldAfter
    obtain ⟨rest, rfl⟩ := within
    obtain ⟨-, moving⟩ := guarded_append.mp (guarded_append.mp guarded).1
    have notOlder := guarded_rel NotOlder NotOlder.refl NotOlder.trans step_notOlder moving
    rw [← run_append] at notOlder
    obtain ⟨next, heldNext, upTo⟩ := notOlder before heldBefore
    cases Option.some.inj (heldNext.symm.trans heldAfter)
    exact upTo
  · intro earlier step within
    obtain ⟨rest, rfl⟩ := within
    obtain ⟨-, keeps, -⟩ := guarded_append.mp (guarded_append.mp guarded).1
    exact step_expiryChecked _ step keeps

namespace Sample

open Formats.Json

/-- A manifest without strategies, published at zero and expiring at 100. -/
def manifestTree (version : Int) : List (String × Tree) :=
  [("schema_version", .int 1), ("manifest_version", .int version), ("key_id", .str "A"),
    ("published_at", .int 0), ("expires_at", .int 100), ("primitives_version", .str "1.0.0"),
    ("primitives_parity_sha256", .str defaultParitySha256), ("research_run_id", .str "run-1"),
    ("strategies", .arr []),
    ("signature", .str ("ed25519:" ++ String.ofList (List.replicate 86 'A') ++ "=="))]

def manifestOf (version : Int) : ManifestObject Unit :=
  ofEntries (manifestTree version)

def signedManifest (version : Int) : ByteArray :=
  (dumps (.obj (manifestOf version))).toUTF8

def recordOf (version : Int) : ManifestRecord Unit :=
  fromDict (manifestOf version) (signedManifest version)

/-- Every signature of the production keys is genuine, and no header can be read. -/
def clientSettings : ClientSettings where
  verify _ _ _ := true
  publicKeys := publicKeys "production"
  readDate _ := .unusable

theorem manifest_checks : ∀ version ∈ [(1 : Int), 2],
    (signedManifest version).size ≤ maxJsonBytes ∧
      checkValue (.obj (manifestOf version)) 0 = .ok () ∧
      validateManifestSchema (manifestOf version) = .ok () ∧
      verifySignature clientSettings.verify (manifestOf version) clientSettings.publicKeys false =
        .ok true := by
  decide +kernel

variable {version : Int}

theorem legible_manifest (known : version ∈ [(1 : Int), 2]) :
    Legible (.obj (manifestTree version)) := by
  have safe : version.natAbs ≤ maxSafeInteger := by
    unfold maxSafeInteger
    simp only [List.mem_cons, List.not_mem_nil, or_false] at known
    omega
  have numbers : ∀ n : Int, n ∈ [(0 : Int), 1, 100] → n.natAbs ≤ maxSafeInteger := by
    decide
  refine ⟨by simp [manifestTree], ?_⟩
  simp only [manifestTree, LegibleEntries, LegibleItems, Legible, safe, true_and, and_true]
  exact ⟨numbers 1 (by decide), numbers 0 (by decide), numbers 100 (by decide)⟩

theorem evaluate_signedManifest (version : Int) (known : version ∈ [(1 : Int), 2]) :
    clientSettings.evaluate (signedManifest version) = .accepted (manifestOf version) := by
  obtain ⟨small, sound, schema, genuine⟩ := manifest_checks version known
  have loaded : loadDocument (signedManifest version) = .ok (manifestOf version) :=
    loadDocument_dumps small (legible_manifest known) sound
  have trusted : (clientSettings.allowTestKeys || clientSettings.buildProfile == "test") =
    false := by
    decide
  have primitives : ((Dict.get? (manifestOf version) "primitives_version").getD .null).text =
      clientSettings.primitivesVersion := by
    simp [manifestOf, manifestTree, ofEntries, ofTree, Dict.get?,
      text, clientSettings]
  have parity : ((Dict.get? (manifestOf version) "primitives_parity_sha256").getD .null).text =
      clientSettings.primitivesParitySha256 := by
    simp [manifestOf, manifestTree, ofEntries, ofTree, Dict.get?,
      text, clientSettings]
  unfold ClientSettings.evaluate evaluateManifestBytes
  rw [loaded, trusted]
  simp [bind, Except.bind, schema, genuine, primitives, parity]

theorem fields_recordOf (version : Int) :
    (recordOf version).manifestVersion = version ∧ (recordOf version).expiresAt = 100 := by
  simp [recordOf, fromDict, intEntry, manifestOf, manifestTree,
    ofEntries, ofTree, Dict.get?, asInt]

theorem accept_signedManifest {date : Option String} {written : Bool}
    {cache : Option ByteArray} (known : version ∈ [(1 : Int), 2])
    (unexpired : clientSettings.expired date now 100 = some false) :
    Installation.step clientSettings { cache := cache }
        (.accept (signedManifest version) date now written) =
      { client := { current := some (recordOf version) }
        cache := if written then some (signedManifest version) else cache } := by
  refine accept_takes (evaluate_signedManifest version known) nofun ?_
  rw [← unexpired]
  exact congrArg _ (fields_recordOf version).2

def firstAccepted : List ClientStep :=
  [.accept (signedManifest 1) none 0 true]

theorem run_firstAccepted :
    run (Installation.step clientSettings) ({} : Installation Unit) firstAccepted =
    { client := { current := some (recordOf 1) }, cache := some (signedManifest 1) } := by
  rw [firstAccepted, run_cons, run_nil, accept_signedManifest (by decide) (by decide)]
  rfl

def secondUnwritten : List ClientStep :=
  [.accept (signedManifest 2) none 0 false]

theorem run_secondUnwritten :
    run (Installation.step clientSettings) ({} : Installation Unit) secondUnwritten =
    { client := { current := some (recordOf 2) } } := by
  rw [secondUnwritten, run_cons, run_nil, accept_signedManifest (by decide) (by decide)]
  rfl

def firstAfterRestart : List ClientStep :=
  [.restart 1 true true, .accept (signedManifest 1) none 2 true]

theorem run_firstAfterRestart :
    run (Installation.step clientSettings) ({} : Installation Unit)
      (secondUnwritten ++ firstAfterRestart) =
    { client := { current := some (recordOf 1) }, cache := some (signedManifest 1) } := by
  rw [run_append, run_secondUnwritten, firstAfterRestart, run_cons, run_cons, run_nil]
  exact accept_signedManifest (by decide) (by decide)

def expiredAccepted : ClientStep :=
  .accept (signedManifest 1) (some "yesterday") 1000000 true

theorem run_expiredAccepted :
    run (Installation.step clientSettings) ({} : Installation Unit) [expiredAccepted] =
    { client := { current := some (recordOf 1) }, cache := some (signedManifest 1) } := by
  rw [expiredAccepted, run_cons, run_nil, accept_signedManifest (by decide) (by decide)]
  rfl

end Sample

theorem kept_cache_history_sound : HistorySound Sample.clientSettings ({} : Installation Unit)
    (Sample.firstAccepted ++ [.restart 50 true true]) := by
  refine history_sound _ _ _ (guarded_append.mpr ⟨⟨?_, trivial⟩, ?_, trivial⟩)
  · rintro offer (_ | ⟨_, ⟨⟩⟩) header ⟨⟩
  · rw [Sample.run_firstAccepted]
    rintro record ⟨⟩
    refine ⟨_, rfl, Sample.recordOf 1, ?_, le_rfl⟩
    have inTime : 50 ≤ (Sample.recordOf 1).expiresAt + offlineExpirationGrace := by
      rw [(Sample.fields_recordOf 1).2]
      decide
    unfold Sample.recordOf at inTime ⊢
    simp only [cached, Sample.evaluate_signedManifest 1 (by decide), if_pos inTime]
    rfl

/-- Version 2 is in use but its cache file was not written: after a restart, version 1 is taken.
    And a manifest that expired long ago is taken when its header cannot be read. -/
theorem lost_cache_goes_back :
    ¬ HistorySound Sample.clientSettings ({} : Installation Unit)
        (Sample.secondUnwritten ++ Sample.firstAfterRestart) ∧
      ¬ HistorySound Sample.clientSettings ({} : Installation Unit) [Sample.expiredAccepted] := by
  constructor
  · intro sound
    have upTo := sound.versions Sample.secondUnwritten Sample.firstAfterRestart
      (List.prefix_refl _) (Sample.recordOf 2) (Sample.recordOf 1)
      (by rw [Sample.run_secondUnwritten]) (by rw [Sample.run_firstAfterRestart])
    rw [(Sample.fields_recordOf 1).1, (Sample.fields_recordOf 2).1] at upTo
    exact absurd upTo (by decide)
  · intro sound
    have taken := Sample.run_expiredAccepted
    rw [run_cons, run_nil] at taken
    obtain ⟨offer, member, -, timely⟩ := sound.expiry [] Sample.expiredAccepted
      (List.prefix_refl _) (Sample.recordOf 1) ⟨by rw [run_nil, taken], nofun⟩
    obtain rfl := List.mem_singleton.mp member
    -- No clock was looked at: the local one is past the grace of 24 hours.
    have late : (1000000 : Int) ≤ (Sample.recordOf 1).expiresAt + offlineExpirationGrace := timely
    rw [(Sample.fields_recordOf 1).2] at late
    exact absurd late (by decide)

end TradingLab
