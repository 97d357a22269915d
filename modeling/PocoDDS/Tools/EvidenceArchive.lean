import PocoDDS.Tools.EvidenceCollection

/-! The archive of an evidence bundle: its manifest and its artifacts pass their own checks. -/

namespace PocoDDS.Tools.EvidenceBundle

open AssocList ExternalAcceptance JsonModel OutcomeLogic PosixPaths

variable {Content : Type} {environment : Environment Content} {disk : Disk Content}

section Archive

variable {files : Files} {contents : List (String × BundleFile × Content)}

/-- The members of the archive beside its manifest. -/
def members (contents : List (String × BundleFile × Content)) : List (String × Content) :=
  contents.map fun file => (file.1, file.2.2)

theorem keys_contents (read : readFiles disk files = .ok contents) :
    contents.map Prod.fst = (sorted files).map Prod.fst := by
  apply mapM_map read
  intro file stored taken
  obtain ⟨content, -, same⟩ := bind_eq_ok.mp taken
  rw [← pure_eq_ok.mp same]

theorem keys_members (contents : List (String × BundleFile × Content)) :
    (members contents).map Prod.fst = contents.map Prod.fst := by
  rw [members, List.map_map]
  rfl

/-- Each file is stored once. -/
theorem nodup_members (read : readFiles disk files = .ok contents)
    (formed : WellFormed disk files) : (keys (members contents)).Nodup := by
  have same : keys (members contents) = (sorted files).map Prod.fst :=
    (keys_members contents).trans (keys_contents read)
  rw [same]
  exact ((List.perm_insertionSort _ files).map Prod.fst).nodup_iff.mpr formed.distinct

theorem mem_keys_members (read : readFiles disk files = .ok contents) {name : String} :
    name ∈ keys (members contents) ↔ ∃ file ∈ files, file.1 = name := by
  have same : keys (members contents) = (sorted files).map Prod.fst :=
    (keys_members contents).trans (keys_contents read)
  rw [same, List.mem_map]
  simp only [sorted, List.mem_insertionSort]

theorem lookup_members (read : readFiles disk files = .ok contents)
    (formed : WellFormed disk files) {file : String × BundleFile} (listed : file ∈ files) :
    (members contents).lookup file.1 = disk.read file.2.source := by
  have inside : file ∈ sorted files := (List.mem_insertionSort _).mpr listed
  obtain ⟨stored, member, taken⟩ := mapM_visits read inside
  obtain ⟨content, loaded, same⟩ := bind_eq_ok.mp taken
  obtain rfl := pure_eq_ok.mp same
  rw [load_eq_ok.mp loaded, lookup_eq_some_iff (nodup_members read formed)]
  exact List.mem_map.mpr ⟨_, member, rfl⟩

theorem checkEntry_made {entries : List (String × Content)} {seen : List String}
    {stored : String × BundleFile × Content} (safe : safeMember stored.1 = true)
    (fresh : stored.1 ∉ seen) (found : entries.lookup stored.1 = some stored.2.2) :
    checkEntry environment entries seen
        (manifestEntry environment stored.1 stored.2.1.role stored.2.2) =
      .ok (seen ++ [stored.1]) := by
  have path : (manifestEntry environment stored.1 stored.2.1.role stored.2.2).get "path" =
      .ok (some (.str stored.1)) := rfl
  have size : Json.isInt ((manifestEntry environment stored.1 stored.2.1.role
      stored.2.2).member "size") (environment.size stored.2.2) = true := by
    simp [manifestEntry, Json.member, List.lookup_cons, Json.isInt, Json.int?]
  have digest : Json.isText ((manifestEntry environment stored.1 stored.2.1.role
      stored.2.2).member "sha256") (environment.sha256 stored.2.2) = true := by
    simp [manifestEntry, Json.member, List.lookup_cons, Json.isText, Json.str?]
  unfold checkEntry
  rw [path]
  simp only [Bind.bind, Except.bind, Json.str?, safe, found, size, digest, require,
    Bool.true_and, Bool.and_self, if_true]
  simp [fresh, pure, Except.pure]

theorem checkEntries_made {entries : List (String × Content)} {seen : List String}
    (safe : ∀ stored ∈ contents, safeMember stored.1 = true)
    (found : ∀ stored ∈ contents, entries.lookup stored.1 = some stored.2.2)
    (distinct : (seen ++ contents.map Prod.fst).Nodup) :
    (contents.map fun file => manifestEntry environment file.1 file.2.1.role file.2.2).foldlM
        (checkEntry environment entries) seen = .ok (seen ++ contents.map Prod.fst) := by
  induction contents generalizing seen with
  | nil => simp [pure, Except.pure]
  | cons stored rest ih =>
    obtain ⟨headSafe, tailSafe⟩ := List.forall_mem_cons.mp safe
    obtain ⟨headFound, tailFound⟩ := List.forall_mem_cons.mp found
    have fresh : stored.1 ∉ seen := by
      intro listed
      exact List.disjoint_of_nodup_append distinct listed (by simp)
    have shifted : seen ++ (stored :: rest).map Prod.fst =
        (seen ++ [stored.1]) ++ rest.map Prod.fst := by simp
    rw [shifted] at distinct ⊢
    rw [List.map_cons, List.foldlM_cons, checkEntry_made headSafe fresh headFound]
    exact ih tailSafe tailFound distinct

theorem AnyFile.ne_manifestName {items entries : List Json} {file : String × BundleFile}
    (kind : AnyFile environment disk items entries file) : file.1 ≠ manifestName := by
  rcases kind with (same | same | ⟨rest, same⟩ | external) | (same | ⟨entry, -, same⟩)
  · rw [same]
    decide
  · rw [same]
    decide
  · rw [same]
    exact append_ne_of_start (by decide) rest
  · obtain ⟨rest, same⟩ := external.below
    rw [same]
    exact append_ne_of_start (by decide) rest
  · rw [same]
    decide
  · rw [same]
    exact append_ne_of_start (by decide) _

section Created

variable {arguments : CreateArguments Content} {qualification : Json} {content : Content}
  {entries items : List Json} {manifest : Json}

/-- The archive that is created from the collected files. -/
def archiveOf (environment : Environment Content) (manifest : Json)
    (contents : List (String × BundleFile × Content)) : List (String × Content) :=
  (manifestName, environment.dumps manifest) :: members contents

variable (gathered : Gathered environment disk arguments qualification content entries items files)
  (read : readFiles disk files = .ok contents)
include gathered read

theorem nodup_archiveOf :
    (keys (archiveOf environment manifest contents)).Nodup := by
  have fresh : manifestName ∉ keys (members contents) := by
    rw [mem_keys_members read]
    rintro ⟨file, listed, same⟩
    exact (gathered.kinds file listed).ne_manifestName same
  exact List.nodup_cons.mpr ⟨fresh, nodup_members read gathered.wellFormed⟩

theorem lookup_archiveOf {file : String × BundleFile} (listed : file ∈ files) :
    (archiveOf environment manifest contents).lookup file.1 = disk.read file.2.source := by
  have other : (file.1 == manifestName) = false := by
    simpa using (gathered.kinds file listed).ne_manifestName
  rw [archiveOf, List.lookup_cons, other]
  exact lookup_members read gathered.wellFormed listed

omit gathered read in
theorem bundleManifest_members
    (made : bundleManifest environment arguments qualification contents = .ok manifest) :
    manifest.get "schemaVersion" = .ok (some (.num 1)) ∧
      manifest.member "product" = some (.str bundleProduct) ∧
      manifest.member "includesArtifacts" = some (.bool arguments.includeArtifacts) ∧
      manifest.member "files" = some (.arr (contents.map fun file =>
        manifestEntry environment file.1 file.2.1.role file.2.2)) := by
  unfold bundleManifest at made
  obtain ⟨commit, -, same⟩ := bind_eq_ok.mp made
  obtain rfl := pure_eq_ok.mp same
  exact ⟨rfl, rfl, rfl, rfl⟩

/-- The manifest of a created archive passes its own checks. -/
theorem checkManifest_created
    (made : bundleManifest environment arguments qualification contents = .ok manifest)
    (readsBack : environment.loads (environment.dumps manifest) = .ok manifest) :
    checkManifest environment (archiveOf environment manifest contents) = .ok manifest := by
  obtain ⟨schema, product, -, listing⟩ := bundleManifest_members made
  have distinct : (keys (archiveOf environment manifest contents)).Nodup :=
    nodup_archiveOf gathered read
  have names : (archiveOf environment manifest contents).map Prod.fst =
      manifestName :: contents.map Prod.fst := by
    rw [archiveOf, List.map_cons, keys_members]
  have safeNames : ∀ name ∈ contents.map Prod.fst, safeMember name = true := by
    intro name listed
    rw [← keys_members] at listed
    obtain ⟨file, member, rfl⟩ := (mem_keys_members read).mp listed
    exact gathered.wellFormed.safe file member
  have found : ∀ stored ∈ contents,
      (archiveOf environment manifest contents).lookup stored.1 = some stored.2.2 := by
    intro stored listed
    rw [lookup_eq_some_iff distinct]
    exact List.mem_cons_of_mem _ (List.mem_map_of_mem listed)
  have tail : ([] ++ contents.map Prod.fst).Nodup := by
    have rest := (List.nodup_cons.mp distinct).2
    rwa [List.nil_append, ← keys_members]
  have checked : (contents.map fun file =>
      manifestEntry environment file.1 file.2.1.role file.2.2).foldlM
        (checkEntry environment (archiveOf environment manifest contents)) [] =
          .ok (contents.map Prod.fst) :=
    checkEntries_made (fun stored listed => safeNames _ (List.mem_map_of_mem listed)) found tail
  have stored : readMember (archiveOf environment manifest contents) manifestName =
      .ok (environment.dumps manifest) := by
    unfold readMember archiveOf
    rw [List.lookup_cons_self]
  unfold checkManifest
  simp only [names, stored, readsBack, schema, product, listing, checked, Bind.bind, Except.bind,
    Json.items?, Option.bind_some]
  have first : (decide (manifestName :: contents.map Prod.fst).Nodup &&
      (manifestName :: contents.map Prod.fst).all safeMember) = true := by
    rw [Bool.and_eq_true, decide_eq_true_eq, List.all_eq_true]
    refine ⟨names ▸ distinct, List.forall_mem_cons.mpr ⟨by decide, safeNames⟩⟩
  have second : (Json.isInt (some (.num 1)) 1 &&
      Json.isText (some (.str bundleProduct)) bundleProduct) = true := by
    decide
  have third : ((manifestName :: contents.map Prod.fst).all
      (fun name => name == manifestName || (contents.map Prod.fst).contains name) &&
        (contents.map Prod.fst).all (manifestName :: contents.map Prod.fst).contains) = true := by
    rw [Bool.and_eq_true, List.all_eq_true, List.all_eq_true]
    constructor
    · intro name listed
      rcases List.mem_cons.mp listed with same | later
      · simp [same]
      · simp [later]
    · intro name listed
      simp [listed]
  rw [first, second, third]
  simp [require, pure, Except.pure]

/-- Where the artifact of a manifest entry lies. -/
def artifactSource (environment : Environment Content) (disk : Disk Content) (artifact : Json)
    (entry : Json) : PosixPath :=
  disk.resolve ((disk.resolve (PosixPath.parse (environment.text artifact "artifactRoot"))).join
    (PosixPath.parse (environment.text entry "path")))

/-- A release manifest that records the artifacts as they are. -/
def ArtifactsRecorded (environment : Environment Content) (disk : Disk Content)
    (qualification : Json) : Prop :=
  ∃ artifact, artifactManifest? qualification = some artifact ∧
    ∀ manifest, disk.read (disk.resolve (PosixPath.parse (environment.text artifact "path"))) =
      some manifest → ∀ entries, manifestEntries environment manifest = .ok entries →
        ∀ entry ∈ entries, ∀ content,
          disk.read (artifactSource environment disk artifact entry) = some content →
            Json.isInt (entry.member "size") (environment.size content) = true ∧
              Json.isText (entry.member "sha256") (environment.sha256 content) = true

/-- Without a release manifest the archive has no member of that name. -/
theorem checkArtifacts_absent (absent : artifactManifest? qualification = none) :
    checkArtifacts environment (archiveOf environment manifest contents) ≠ .ok () := by
  have others := gathered.artifacts
  rw [absent] at others
  have missing : (archiveOf environment manifest contents).lookup "artifacts/SHA256SUMS.json" =
      none := by
    rw [lookup_eq_none_iff]
    intro listed
    rcases List.mem_cons.mp listed with same | later
    · have other : "artifacts/SHA256SUMS.json" ≠ manifestName := by decide
      exact other same
    · obtain ⟨file, member, same⟩ := (mem_keys_members read).mp later
      have start := (others file member).no_artifact
      rw [same] at start
      exact absurd start (by decide)
  unfold checkArtifacts readMember
  rw [missing]
  intro passed
  cases passed

theorem checkArtifact_created {entry : Json} {file : BundleFile} {payload : Content}
    (object : entry.isObject = true) (safe : safeMember (environment.text entry "path") = true)
    (bundled : ("artifacts/payload/" ++ environment.text entry "path", file) ∈ files)
    (stored : disk.read file.source = some payload) :
    checkArtifact environment (archiveOf environment manifest contents) entry = .ok () ↔
      Json.isInt (entry.member "size") (environment.size payload) = true ∧
        Json.isText (entry.member "sha256") (environment.sha256 payload) = true := by
  have found : (archiveOf environment manifest contents).lookup
      ("artifacts/payload/" ++ environment.text entry "path") = some payload := by
    rw [lookup_archiveOf gathered read bundled]
    exact stored
  have listed : ((archiveOf environment manifest contents).map Prod.fst).contains
      ("artifacts/payload/" ++ environment.text entry "path") = true := by
    rw [List.contains_iff_mem]
    exact lookup_isSome_iff.mp (by rw [found]; rfl)
  unfold checkArtifact readMember Json.get
  simp only [object, if_true, safe, listed, found, Bind.bind, Except.bind, require, Bool.and_self]
  simp

omit gathered read in
theorem AnyFile.payload_listed {file : String × BundleFile}
    (kind : AnyFile environment disk items entries file) :
    (!hasStart "artifacts/payload/" file.1 || entries.any fun entry =>
      file.1 == "artifacts/payload/" ++ environment.text entry "path") = true := by
  rcases kind with other | (same | ⟨entry, listed, same⟩)
  · -- A path below the payload directory is below the directory of the artifacts.
    have outside : hasStart "artifacts/payload/" file.1 = false := by
      rw [Bool.eq_false_iff]
      intro inside
      have above : "artifacts/".toList <+: "artifacts/payload/".toList := by decide
      have start := hasStart_iff.mpr (above.trans (hasStart_iff.mp inside))
      rw [other.no_artifact] at start
      cases start
    rw [outside]
    rfl
  · rw [same]
    rfl
  · rw [Bool.or_eq_true]
    right
    rw [List.any_eq_true]
    exact ⟨entry, listed, by rw [same]; exact beq_self_eq_true _⟩

/-- The artifacts of a created archive pass exactly when the manifest records them as they are. -/
theorem checkArtifacts_iff (asked : arguments.includeArtifacts = true) :
    checkArtifacts environment (archiveOf environment manifest contents) = .ok () ↔
      ArtifactsRecorded environment disk qualification := by
  cases present : artifactManifest? qualification with
  | none =>
    constructor
    · intro passed
      exact absurd passed (checkArtifacts_absent gathered read present)
    · rintro ⟨artifact, found, -⟩
      rw [present] at found
      cases found
  | some artifact =>
    have held := gathered.artifacts
    rw [present] at held
    obtain ⟨release, collected⟩ := held
    have listed := collected.listed asked
    have stored : readMember (archiveOf environment manifest contents)
        "artifacts/SHA256SUMS.json" = .ok release := by
      unfold readMember
      rw [lookup_archiveOf gathered read collected.manifest, collected.read]
    -- Every artifact of the manifest is in the archive, with the content of its source.
    have each : ∀ entry ∈ entries, ∀ payload,
        disk.read (artifactSource environment disk artifact entry) = some payload →
          (checkArtifact environment (archiveOf environment manifest contents) entry = .ok () ↔
            Json.isInt (entry.member "size") (environment.size payload) = true ∧
              Json.isText (entry.member "sha256") (environment.sha256 payload) = true) := by
      intro entry member payload source
      obtain ⟨object, safe, bundled⟩ := collected.payload asked entry member
      exact checkArtifact_created gathered read object safe bundled source
    have unexpected : (((archiveOf environment manifest contents).map Prod.fst).all fun name =>
        !hasStart "artifacts/payload/" name || entries.any fun entry =>
          name == "artifacts/payload/" ++ environment.text entry "path") = true := by
      rw [List.all_eq_true]
      intro name named
      rcases List.mem_cons.mp named with same | later
      · have other : hasStart "artifacts/payload/" manifestName = false := by decide
        rw [show name = manifestName from same, other]
        rfl
      · obtain ⟨file, member, rfl⟩ := (mem_keys_members read).mp later
        exact (gathered.kinds file member).payload_listed
    have unfolded : checkArtifacts environment (archiveOf environment manifest contents) =
        .ok () ↔ ∀ entry ∈ entries,
          checkArtifact environment (archiveOf environment manifest contents) entry = .ok () := by
      unfold checkArtifacts
      rw [stored]
      change (manifestEntries environment release >>= fun listed => _) = _ ↔ _
      rw [listed]
      change (entries.forM _ >>= fun _ => require _ _) = _ ↔ _
      rw [andThen_eq_ok, forM_eq_ok, require_eq_ok]
      exact and_iff_left unexpected
    rw [unfolded]
    constructor
    · intro passed
      refine ⟨artifact, present, ?_⟩
      intro manifest' found entries' listed' entry member payload source
      obtain rfl := Option.some.inj (found.symm.trans collected.read)
      obtain rfl := Except.ok.inj (listed'.symm.trans listed)
      exact (each entry member payload source).mp (passed entry member)
    · rintro ⟨artifact', found, recorded⟩ entry member
      rw [present] at found
      obtain rfl := Option.some.inj found
      obtain ⟨object, safe, bundled⟩ := collected.payload asked entry member
      obtain ⟨payload, source⟩ := Option.isSome_iff_exists.mp
        (gathered.wellFormed.present _ bundled)
      exact (each entry member payload source).mpr
        (recorded release collected.read entries listed entry member payload source)

end Created

end Archive

end PocoDDS.Tools.EvidenceBundle
