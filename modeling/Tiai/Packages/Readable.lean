import Mathlib
import Tiai.Lib.Runs
import Tiai.Packages.Routes

/-!
# A package the server calls ready, read by an agent

`build` on the server and `ParseManifest` on the poste are two validators of one document.

* `Sound` — what every request keeps of a package and its files; `reachable_sound`;
* `parses_iff` — what the agent's check of the files comes down to, once the rest of the manifest is right;
* `readable_iff` — a ready package is read back whole exactly when the agent can tell its files apart.
-/

namespace Tiai.Packages

open Deploy (Bytes Host Manifest FileRef Step checkFiles checkStep parseManifest sha256Hex hexEncode)
open Lib

/-! ### What the requests keep -/

/-- What the body's validators and `_apply` have checked of a row. -/
structure Checked (p : Package) : Prop where
  installArgs : ∀ args, p.installArgs = some args → checkArgs args = true
  uninstallArgs : ∀ args, p.uninstallArgs = some args → checkArgs args = true
  codes : ∀ codes, p.successCodes = some codes → checkCodes codes = true
  runs : p.kind = .files → RunOk p.installRun ∧ RunOk p.uninstallRun

/-- What `upload_files` has checked of the files. -/
def Stored (files : List PackageFile) : Prop :=
  ∀ f ∈ files, validFileName f.name = true ∧ sha256Hex f.sha256 = true ∧ f.size ≤ 8 * 1024 ^ 3

/-- What the requests keep of a package and its files. -/
structure Sound (cfg : Settings) (p : Package) (files : List PackageFile) : Prop where
  checked : Checked p
  stored : Stored files
  built : p.kind = .files → ∃ built, build cfg p files = some built ∧ p.manifest = some built

section Kept

variable {cfg : Settings} {p p' : Package} {files : List PackageFile} {body : PackageBody}
  {written written' : List PackageFile}

lemma hexEncode_sha256Hex {b : Bytes} (h : b.length = 32) : sha256Hex (hexEncode b) = true := by
  have hdigit : ∀ n < 16, (Deploy.isDigit (Nat.digitChar n) ||
      decide ('a' ≤ Nat.digitChar n ∧ Nat.digitChar n ≤ 'f')) = true := by decide
  have hlength : (b.flatMap fun x => [Nat.digitChar (x.toNat / 16), Nat.digitChar (x.toNat % 16)]).length
      = 64 := by
    rw [List.length_flatMap]
    simp [h]
  simp only [sha256Hex, hexEncode, String.length_ofList, String.toList_ofList, Bool.and_eq_true,
    decide_eq_true_iff, List.all_eq_true]
  refine ⟨hlength, fun c hc => ?_⟩
  obtain ⟨x, -, hc⟩ := List.mem_flatMap.1 hc
  have hx : x.toNat < 256 := x.toNat_lt
  rcases List.mem_cons.1 hc with rfl | hc
  · exact hdigit _ (by omega)
  · obtain rfl := List.mem_singleton.1 hc
    exact hdigit _ (by omega)

/-- A column that a checked field may set. -/
lemma Supplied.all_getD {α : Type} {v : Supplied α} {check : α → Bool} {column : Option α}
    (hv : v.all check = true) (hcolumn : ∀ a, column = some a → check a = true) :
    ∀ a, v.getD column = some a → check a = true := by
  intro a ha
  cases v with
  | none => exact hcolumn a ha
  | some v =>
    obtain rfl : v = some a := ha
    exact hv

/-- A body that passed its validators, applied to what passed them before. -/
lemma Checked.applied (hp : Checked p) (hvalid : body.valid = true)
    (h : applyBody p body = .ok p') : Checked p' := by
  simp only [PackageBody.valid, Bool.and_eq_true] at hvalid
  obtain ⟨⟨⟨⟨⟨-, hinstall⟩, -⟩, huninstall⟩, hcodes⟩, -⟩ := hvalid
  obtain ⟨⟨name, detect, rfl⟩, hruns⟩ := applyBody_ok h
  exact {
    installArgs := Supplied.all_getD hinstall hp.installArgs
    uninstallArgs := Supplied.all_getD huninstall hp.uninstallArgs
    codes := Supplied.all_getD hcodes hp.codes
    runs := hruns }

lemma Checked.new (id : Uuid) (kind : PackageKind) (name : String) :
    Checked (Package.new id kind name) where
  installArgs := by
    rintro args ⟨⟩
    rfl
  uninstallArgs := by
    rintro args ⟨⟩
    rfl
  codes := by
    rintro codes ⟨⟩
    decide
  runs _ := by
    constructor
    · intro run hrun
      cases hrun
    · intro run hrun
      cases hrun

/-- The manifest and the signature are none of what `Checked` is about. -/
lemma Checked.refresh (hp : Checked p) (hfiles : Stored files)
    (h : refreshManifest cfg p files = .ok p') : Sound cfg p' files := by
  rcases refreshManifest_ok h with ⟨hkind, rfl⟩ | ⟨-, built, hbuilt, ⟨hmanifest, rfl⟩ | ⟨-, rfl⟩⟩
  · exact ⟨hp, hfiles, fun hfiles => nomatch hkind.symm.trans hfiles⟩
  · exact ⟨hp, hfiles, fun _ => ⟨built, hbuilt, hmanifest⟩⟩
  · exact ⟨⟨hp.installArgs, hp.uninstallArgs, hp.codes, hp.runs⟩, hfiles, fun _ => ⟨built, hbuilt, rfl⟩⟩

lemma uploadFile_stored {upload : Upload} (hw : Stored written)
    (h : uploadFile cfg written upload = .ok written') : Stored written' := by
  unfold uploadFile at h
  split at h
  · cases h
  split at h
  · cases h
  split at h
  · cases h
  rename_i hname hsize _
  obtain rfl := Except.ok.inj h
  intro f hf
  rcases List.mem_append.1 hf with hf | hf
  · exact hw f (List.mem_of_mem_filter hf)
  · obtain rfl := List.mem_singleton.1 hf
    have hle : upload.content.length ≤ cfg.packageMaxBytes := not_lt.1 hsize
    have hhash := hexEncode_sha256Hex (cfg.sha256_length upload.content)
    exact ⟨Bool.eq_true_of_not_eq_false hname, hhash, hle.trans cfg.packageMaxBytes_le⟩

lemma uploads_stored {uploads : List Upload} (hw : Stored written)
    (h : uploads.foldlM (uploadFile cfg) written = .ok written') : Stored written' := by
  induction uploads generalizing written with
  | nil => exact (Except.ok.inj h) ▸ hw
  | cons upload uploads ih =>
    rw [List.foldlM_cons] at h
    obtain ⟨next, hnext, h⟩ := bind_eq_ok h
    exact ih (uploadFile_stored hw hnext) h

lemma Draft.files_stored {d : Draft} (hw : Stored d.written) (hfiles : Stored files) :
    Stored (d.files files) := by
  intro f hf
  rcases List.mem_append.1 hf with hf | hf
  · exact hfiles f (List.mem_of_mem_filter hf)
  · exact hw f hf

/-- **What a request makes of a sound package is sound.** -/
theorem Worked.sound {user : String} {edit : Edit} {d : Draft} (h : Worked cfg user p files edit d)
    (hs : Sound cfg p files) : Sound cfg d.package (d.files files) := by
  cases h with
  | update payload applied refreshed hvalid happlied hrefreshed =>
    rw [Draft.files_none]
    exact (hs.checked.applied hvalid happlied).refresh hs.stored hrefreshed
  | upload uploads written refreshed _ hwritten hrefreshed =>
    have hw : Stored written := uploads_stored (List.forall_mem_nil _) hwritten
    exact hs.checked.refresh (Draft.files_stored hw hs.stored) hrefreshed
  | deleteFile name refreshed _ hrefreshed =>
    exact hs.checked.refresh (Draft.files_stored (List.forall_mem_nil _) hs.stored) hrefreshed
  | attachSignature document v =>
    rw [Draft.files_none]
    exact ⟨⟨hs.checked.installArgs, hs.checked.uninstallArgs, hs.checked.codes, hs.checked.runs⟩,
      hs.stored, hs.built⟩
  | removeSignature =>
    rw [Draft.files_none]
    exact ⟨⟨hs.checked.installArgs, hs.checked.uninstallArgs, hs.checked.codes, hs.checked.runs⟩,
      hs.stored, hs.built⟩

lemma createPackage_sound {id : Uuid} {kind : PackageKind}
    (h : createPackage cfg id kind body = .ok p) : Sound cfg p [] := by
  unfold createPackage at h
  split at h
  · obtain ⟨⟨⟩, hvalid, h⟩ := bind_eq_ok h
    obtain ⟨applied, happlied, h⟩ := bind_eq_ok h
    refine ((Checked.new id kind _).applied ?_ happlied).refresh (List.forall_mem_nil _) h
    -- The default of the codes passes their check.
    have hvalid := validate_ok hvalid
    simp only [PackageBody.valid, Bool.and_eq_true] at hvalid ⊢
    refine ⟨⟨hvalid.1.1, ?_⟩, hvalid.2⟩
    cases hcodes : body.successCodes with
    | none => decide
    | some codes => exact hcodes ▸ hvalid.1.2
  · cases h

lemma serve_sound {t t' : Tables} {request : Request} (hall : t.All (Sound cfg))
    (h : serve cfg t request = .ok t') : t'.All (Sound cfg) := by
  cases request with
  | create id kind payload =>
    obtain ⟨p, hp, h⟩ := bind_eq_ok h
    split at h
    · cases h
    rename_i hfree
    obtain rfl := Except.ok.inj h
    exact hall.create (by simpa using hfree) (createPackage_id hp) (createPackage_sound hp)
  | edit id user edit =>
    obtain ⟨p, hp, h⟩ := bind_eq_ok h
    obtain ⟨d, hd, h⟩ := bind_eq_ok h
    obtain rfl := Except.ok.inj h
    have hget := requirePackage_ok hp
    have hworked := work_cases hd
    refine hall.commit hget ?_
    rw [writeBack_self hworked.key.1 hworked.key.2]
    exact hworked.sound (hall.holds id p hget)

/-- The tables that some run of requests leaves. -/
def Reachable (cfg : Settings) (t : Tables) : Prop :=
  ∃ requests, run (serveStep cfg) Tables.empty requests = t

/-- **What the requests keep, they keep over any run of them.** -/
theorem reachable_sound {t : Tables} (h : Reachable cfg t) : t.All (Sound cfg) := by
  obtain ⟨requests, rfl⟩ := h
  refine run_invariant (fun t request hall => ?_) Tables.All.empty requests
  unfold serveStep
  split
  · exact serve_sound hall ‹_›
  · exact hall

end Kept

/-! ### What the agent checks -/

section Parse

variable {host : Host} {fs : List FileRef} {seen seen' : List String} {m m' : Manifest}
  {raw : Bytes} {packageID : String}

/-- What the agent accepts of the files a manifest names. -/
structure Accepted (host : Host) (fs : List FileRef) : Prop where
  named : ∀ f ∈ fs, Deploy.validFileName f.name = true
  hashed : ∀ f ∈ fs, sha256Hex f.sha256 = true
  sized : ∀ f ∈ fs, 0 ≤ f.size
  distinct : (fs.map fun f => host.go.lower f.name).Nodup

/-- The loop over the files, to its end. -/
lemma checkFiles_of_accepted (h : Accepted host fs)
    (hnew : ∀ f ∈ fs, host.go.lower f.name ∉ seen) :
    checkFiles host seen fs = .ok ((fs.map fun f => host.go.lower f.name).reverse ++ seen) := by
  induction fs generalizing seen with
  | nil => rfl
  | cons f fs ih =>
    have hdistinct := List.nodup_cons.1 h.distinct
    have hrest : Accepted host fs := ⟨(List.forall_mem_cons.1 h.named).2,
      (List.forall_mem_cons.1 h.hashed).2, (List.forall_mem_cons.1 h.sized).2, hdistinct.2⟩
    have hname : ¬(Deploy.validFileName f.name = false ∨ host.go.lower f.name ∈ seen) := by
      rw [h.named f List.mem_cons_self]
      simpa using hnew f List.mem_cons_self
    have hhash : ¬(sha256Hex f.sha256 = false ∨ f.size < 0) := by
      rw [h.hashed f List.mem_cons_self]
      simpa using h.sized f List.mem_cons_self
    rw [checkFiles, if_neg hname, if_neg hhash, ih hrest]
    · simp
    · intro g hg
      rw [List.mem_cons, not_or]
      refine ⟨fun he => hdistinct.1 ?_, hnew g (List.mem_cons_of_mem _ hg)⟩
      exact List.mem_map.2 ⟨g, hg, he⟩

lemma accepted_of_checkFiles (h : checkFiles host seen fs = .ok seen') : Accepted host fs := by
  have hdistinct := (Deploy.checkFiles_ok h).2.1
  induction fs generalizing seen with
  | nil => exact ⟨List.forall_mem_nil _, List.forall_mem_nil _, List.forall_mem_nil _, hdistinct⟩
  | cons f fs ih =>
    rw [checkFiles] at h
    split at h
    · cases h
    split at h
    · cases h
    rename_i hname hhash
    rw [not_or, Bool.not_eq_false] at hname hhash
    obtain ⟨hnamed, hhashed, hsized, -⟩ := ih h (List.nodup_cons.1 hdistinct).2
    exact ⟨List.forall_mem_cons.2 ⟨hname.1, hnamed⟩, List.forall_mem_cons.2 ⟨hhash.1, hhashed⟩,
      List.forall_mem_cons.2 ⟨not_lt.1 hhash.2, hsized⟩, hdistinct⟩

/-- What is left of `ParseManifest` when the files are accepted. -/
structure Complete (host : Host) (raw : Bytes) (packageID : String) (m : Manifest) : Prop where
  unmarshal : host.unmarshal raw = .ok m
  format : m.format = Deploy.manifestFormat
  package : m.packageID = packageID
  nonempty : m.files ≠ []
  steps : ∀ s, m.install = some s ∨ m.uninstall = some s →
    (s.run = Deploy.msiExec ∨ s.run ∈ m.files.map FileRef.name) ∧
      (s.args.any fun a => a.toList.any (·.toNat = 0)) = false
  codes : m.successCodes ≠ []

lemma Complete.unfold (h : Complete host raw packageID m) :
    parseManifest host raw packageID = (do
      let seen ← checkFiles host [] m.files
      checkStep host seen m.install
      checkStep host seen m.uninstall
      return m) := by
  have hfiles : m.files.isEmpty = false := by simpa using h.nonempty
  have hcodes : m.successCodes.isEmpty = false := by simpa using h.codes
  unfold parseManifest
  rw [h.unmarshal]
  simp only [Except.mapError, ok_bind]
  rw [if_neg (not_not.2 h.format), if_neg (not_not.2 h.package), if_neg (by simp [hfiles]),
    if_neg (by simp [hcodes])]

/-- **A complete manifest parses exactly when its files are accepted**, and is what it was. -/
theorem parses_iff (h : Complete host raw packageID m) :
    parseManifest host raw packageID = .ok m' ↔ Accepted host m.files ∧ m' = m := by
  rw [h.unfold]
  constructor
  · intro hparse
    obtain ⟨seen, hseen, hparse⟩ := bind_eq_ok hparse
    obtain ⟨⟨⟩, -, hparse⟩ := bind_eq_ok hparse
    obtain ⟨⟨⟩, -, hparse⟩ := bind_eq_ok hparse
    exact ⟨accepted_of_checkFiles hseen, (Except.ok.inj hparse).symm⟩
  · rintro ⟨haccepted, rfl⟩
    have hseen : checkFiles host [] m'.files = .ok _ := checkFiles_of_accepted haccepted (by simp)
    have hstep (s : Option Step) (hs : ∀ t, s = some t → m'.install = some t ∨ m'.uninstall = some t) :
        checkStep host ((m'.files.map fun f => host.go.lower f.name).reverse ++ []) s = .ok () := by
      cases s with
      | none => rfl
      | some t =>
        obtain ⟨hrun, hargs⟩ := h.steps t (hs t rfl)
        have hin : ¬(t.run ≠ Deploy.msiExec ∧ host.go.lower t.run ∉
            (m'.files.map fun f => host.go.lower f.name).reverse ++ []) := by
          rw [not_and, not_not, List.append_nil, List.mem_reverse]
          intro hne
          obtain ⟨f, hf, hname⟩ := List.mem_map.1 (hrun.resolve_left hne)
          exact hname ▸ List.mem_map_of_mem hf
        simp only [checkStep]
        rw [if_neg hin, if_neg (by rw [hargs]; decide)]
    rw [hseen, ok_bind, hstep m'.install fun t ht => .inl ht, ok_bind,
      hstep m'.uninstall fun t ht => .inr ht]
    rfl

end Parse

/-! ### Ready, and readable -/

/-- The agent can tell the files apart: no two names differ in case only, and none ends in a newline. -/
def Distinguishable (files : List PackageFile) : Prop :=
  (files.map fun f => folded f.name).Nodup ∧ ∀ f ∈ files, endsInNewline f.name = false

/-- A step, as the server stores it. -/
def storedStep (run : Option String) (args : Option (List String)) : Option Step :=
  match run, args with
  | some run, some args => some ⟨run, args⟩
  | _, _ => none

/-- The manifest says what the server stored. -/
structure Returned (p : Package) (files : List PackageFile) (m : Manifest) : Prop where
  files : m.files.Perm (files.map PackageFile.ref)
  install : m.install = storedStep p.installRun p.installArgs
  uninstall : m.uninstall = storedStep p.uninstallRun p.uninstallArgs
  codes : some m.successCodes = p.successCodes

/-- The numbers of a manifest fit the agent's `int64`. -/
def FitsInt64 (m : Manifest) : Prop :=
  (∀ f ∈ m.files, -2 ^ 63 ≤ f.size ∧ f.size < 2 ^ 63) ∧ ∀ c ∈ m.successCodes, -2 ^ 63 ≤ c ∧ c < 2 ^ 63

/-- What the agent decodes of a document is what the server encoded. -/
def RoundTrips (cfg : Settings) (host : Host) (m : Manifest) : Prop :=
  FitsInt64 m → host.unmarshal (cfg.dumps m) = .ok m

section Ready

variable {cfg : Settings} {host : Host} {p : Package} {files : List PackageFile} {m : Manifest}

lemma accepted_iff (host : Host) (hs : Stored files) :
    Accepted host ((sortedFiles files).map PackageFile.ref) ↔ Distinguishable files := by
  have hmem {f : PackageFile} : f ∈ sortedFiles files ↔ f ∈ files := (sortedFiles_perm files).mem_iff
  have hnodup : (((sortedFiles files).map PackageFile.ref).map fun f => host.go.lower f.name).Nodup ↔
      (files.map fun f => folded f.name).Nodup := by
    have hfold : files.map (fun f => folded f.name) =
        (files.map fun f => host.go.lower f.name).map String.toList := by
      rw [List.map_map]
      exact List.map_congr_left fun f hf => (lower_folded host.go (hs f hf).1).symm
    rw [hfold, List.nodup_map_iff fun _ _ => String.toList_inj.1, List.map_map]
    exact ((sortedFiles_perm files).map _).nodup_iff
  constructor
  · intro h
    refine ⟨hnodup.1 h.distinct, fun f hf => no_newline ?_⟩
    exact h.named f.ref (List.mem_map_of_mem (hmem.2 hf))
  · rintro ⟨hdistinct, hend⟩
    have hall {f : FileRef} (hf : f ∈ (sortedFiles files).map PackageFile.ref) :
        ∃ g ∈ files, g.ref = f := by
      obtain ⟨g, hg, rfl⟩ := List.mem_map.1 hf
      exact ⟨g, hmem.1 hg, rfl⟩
    refine ⟨fun f hf => ?_, fun f hf => ?_, fun f hf => ?_, hnodup.2 hdistinct⟩
    all_goals obtain ⟨g, hg, rfl⟩ := hall hf
    · exact (validFileName_eq (hend g hg)) ▸ (hs g hg).1
    · exact (hs g hg).2.1
    · exact Int.natCast_nonneg g.size

/-- What a step of the document says of the columns it is made from. -/
lemma stepOf_ok {run : Option String} {args : Option (List String)} {s : Option Step}
    (hrun : RunOk run) (h : stepOf run args = some s) : s = storedStep run args := by
  cases run with
  | none => exact (Option.some.inj h).symm
  | some run =>
    have hne : run ≠ "" := by
      rcases hrun run rfl with rfl | hvalid
      · decide
      · exact validFileName_ne_empty hvalid
    rw [stepOf, truthy_some hne] at h
    cases args with
    | none => cases h
    | some args => exact (Option.some.inj h).symm

lemma document_ok (h : document cfg p files = some m) :
    m.format = format ∧ m.packageID = cfg.uuidText p.id ∧
      m.files = (sortedFiles files).map PackageFile.ref ∧
      stepOf p.installRun p.installArgs = some m.install ∧
      stepOf p.uninstallRun p.uninstallArgs = some m.uninstall ∧ p.successCodes = some m.successCodes := by
  simp only [document, Option.bind_eq_bind, Option.bind_eq_some_iff] at h
  obtain ⟨install, hinstall, uninstall, huninstall, codes, hcodes, h⟩ := h
  obtain rfl := Option.some.inj h
  exact ⟨rfl, rfl, rfl, hinstall, huninstall, hcodes⟩

/-- **The document of a ready package says what the server stored.** -/
lemma document_returned (hs : Sound cfg p files) (hkind : p.kind = .files)
    (h : document cfg p files = some m) : Returned p files m := by
  obtain ⟨-, -, hfiles, hinstall, huninstall, hcodes⟩ := document_ok h
  obtain ⟨hrun, hrun'⟩ := hs.checked.runs hkind
  refine ⟨?_, stepOf_ok hrun hinstall, stepOf_ok hrun' huninstall, hcodes.symm⟩
  rw [hfiles]
  exact (sortedFiles_perm files).map _

lemma document_fits (hs : Sound cfg p files) (h : document cfg p files = some m) : FitsInt64 m := by
  obtain ⟨-, -, hfiles, -, -, hcodes⟩ := document_ok h
  constructor
  · intro f hf
    rw [hfiles] at hf
    obtain ⟨g, hg, rfl⟩ := List.mem_map.1 hf
    have hsize := (hs.stored g ((sortedFiles_perm files).mem_iff.1 hg)).2.2
    simp only [PackageFile.ref]
    omega
  · intro c hc
    have hcheck := hs.checked.codes _ hcodes
    simp only [checkCodes, Bool.and_eq_true, List.all_eq_true, decide_eq_true_iff] at hcheck
    have hrange := hcheck.2 c hc
    omega

/-- A ready package's manifest lacks nothing but the agent's word on its files. -/
lemma document_complete (hs : Sound cfg p files) (hkind : p.kind = .files)
    (hready : problems p files = []) (h : document cfg p files = some m)
    (hjson : RoundTrips cfg host m) : Complete host (cfg.dumps m) (cfg.uuidText p.id) m := by
  obtain ⟨hformat, hid, hfiles, -, -, hcodes⟩ := document_ok h
  obtain ⟨-, hinstall, huninstall, -⟩ := document_returned hs hkind h
  obtain ⟨hnonempty, ⟨run, hrun, hin⟩, hin'⟩ := problems_eq_nil.1 hready
  have hnames : m.files.map FileRef.name = (sortedFiles files).map PackageFile.name := by
    rw [hfiles, List.map_map]
    rfl
  have hstep {run : Option String} {args : Option (List String)} {s : Step} (hok : RunOk run)
      (hargs : ∀ as, args = some as → checkArgs as = true)
      (hin : ∀ r, truthy run = some r → absent files r = false) (hs : storedStep run args = some s) :
      (s.run = Deploy.msiExec ∨ s.run ∈ m.files.map FileRef.name) ∧
        (s.args.any fun a => a.toList.any (·.toNat = 0)) = false := by
    match run, args, hs with
    | some run, some args, hs =>
      obtain rfl := Option.some.inj hs
      have hne : run ≠ "" := by
        rcases hok run rfl with rfl | hvalid
        · decide
        · exact validFileName_ne_empty hvalid
      have hpresent := hin run (truthy_some hne)
      simp only [absent, Bool.and_eq_false_iff, decide_eq_false_iff_not, not_not] at hpresent
      refine ⟨hpresent.imp id fun hmem => ?_, ?_⟩
      · rw [hnames]
        exact ((sortedFiles_perm files).map _).mem_iff.2 hmem
      · have hcheck := hargs args rfl
        simp only [checkArgs, Bool.and_eq_true, List.all_eq_true, decide_eq_true_iff] at hcheck
        simp only [List.any_eq_false]
        exact fun a ha hany => by
          obtain ⟨c, hc, hzero⟩ := List.any_eq_true.1 hany
          exact (hcheck.2 a ha).2 c hc (by simpa using hzero)
  obtain ⟨hrunOk, hrunOk'⟩ := hs.checked.runs hkind
  exact {
    unmarshal := hjson (document_fits hs h)
    format := hformat
    package := hid
    nonempty := by
      rw [hfiles]
      intro hnil
      have hperm := sortedFiles_perm files
      rw [List.map_eq_nil_iff.1 hnil] at hperm
      exact hnonempty hperm.nil_eq.symm
    steps := by
      rintro s (hs' | hs')
      · refine hstep hrunOk hs.checked.installArgs (fun r hr => ?_) (hinstall.symm.trans hs')
        exact Option.some.inj (hrun.symm.trans hr) ▸ hin
      · exact hstep hrunOk' hs.checked.uninstallArgs hin' (huninstall.symm.trans hs')
    codes := by
      have hcheck := hs.checked.codes _ hcodes
      simp only [checkCodes, Bool.and_eq_true] at hcheck
      simpa using hcheck.1.1 }

end Ready

/-- **A package the server calls ready is one the agent can read**, whole, exactly when the agent can tell
its files apart. -/
theorem readable_iff (host : Host) {cfg : Settings} {t : Tables} (ht : Reachable cfg t) {id : Uuid}
    {p : Package} (hp : t.packages.get id = some p) (hkind : p.kind = .files)
    (hready : problems p (t.filesOf id) = [])
    (hjson : ∀ m, document cfg p (t.filesOf id) = some m → RoundTrips cfg host m) :
    ∃ raw, build cfg p (t.filesOf id) = some raw ∧
      ((∃ m, parseManifest host raw (cfg.uuidText p.id) = .ok m ∧ Returned p (t.filesOf id) m) ↔
        Distinguishable (t.filesOf id)) := by
  have hs := (reachable_sound ht).holds id p hp
  obtain ⟨raw, hraw, -⟩ := hs.built hkind
  obtain ⟨m, hm, rfl⟩ := Option.map_eq_some_iff.1 hraw
  have hcomplete := document_complete hs hkind hready hm (hjson m hm)
  refine ⟨cfg.dumps m, hraw, ?_⟩
  rw [← accepted_iff host hs.stored, ← (document_ok hm).2.2.1]
  constructor
  · rintro ⟨m', hparse, -⟩
    exact ((parses_iff hcomplete).1 hparse).1
  · intro haccepted
    exact ⟨m, (parses_iff hcomplete).2 ⟨haccepted, rfl⟩, document_returned hs hkind hm⟩

/-! ### Two packages -/

/-- A poste whose `json.Unmarshal` knows one document. -/
def decoder (m : Manifest) : Host where
  packagesDir := ["C:", "ProgramData", "Tiai", "packages"]
  msiExecPath := ["C:", "Windows", "System32", "msiexec.exe"]
  wingetPath := .error "winget.exe introuvable"
  queueDir := ["C:", "ProgramData", "Tiai", "queue"]
  maxItems := 100
  go := .ascii
  base64 _ := none
  unmarshal raw :=
    if raw = Settings.standard.dumps m then .ok m
    else .error "invalid character '\\x01' looking for beginning of value"
  sha256 _ := emptyDigest
  parseCertificate _ := .error "x509: malformed certificate"
  verifyPKCS1v15 _ _ _ := false
  ecdsaVerify _ _ _ _ := false
  verifyASN1 _ _ _ := false
  verifyAuthenticode _ _ := .error "non signé"
  signerName _ _ := .error "non signé"

lemma decoder_dumps (m : Manifest) :
    (decoder m).unmarshal (Settings.standard.dumps m) = .ok m := by
  simp [decoder]

/-- A package that runs `run`, and the empty files uploaded to it. -/
def composed (run : String) (names : List String) : Tables :=
  Lib.run (serveStep Settings.standard) Tables.empty
    [.create 1 .files { PackageBody.empty with
        name := some (some "Client PRONOTE"), installRun := some (some run),
        installArgs := some (some ["-s"]) },
      .edit 1 "admin@test.local" (.upload (names.map fun name => ⟨some name, []⟩))]

/-- The row that leaves. -/
def composedRow (run : String) (names : List String) : Package :=
  ((composed run names).packages.get 1).getD (Package.new 1 .files "")

/-- Its document. -/
def composedDocument (run : String) (names : List String) : Manifest where
  format := "tiai-package-1"
  packageID := "00000000-0000-0000-0000-000000000001"
  name := "Client PRONOTE"
  version := ""
  files := names.map fun name =>
    ⟨name, "e3b0c44298fc1c149afbf4c8996fb92427ae41e4649b934ca495991b7852b855", 0⟩
  install := some ⟨run, ["-s"]⟩
  uninstall := none
  successCodes := [0, 3010, 1641]

lemma composedRow_get {run : String} {names : List String}
    (h : ((composed run names).packages.get 1).isSome = true) :
    (composed run names).packages.get 1 = some (composedRow run names) := by
  obtain ⟨p, hp⟩ := Option.isSome_iff_exists.1 h
  rw [composedRow, hp]
  rfl

theorem readable_iff_two : ∃ raw,
    build Settings.standard (composedRow "setup.exe" ["setup.exe", "setup.iss"])
        ((composed "setup.exe" ["setup.exe", "setup.iss"]).filesOf 1) = some raw ∧
      ((∃ m, parseManifest (decoder (composedDocument "setup.exe" ["setup.exe", "setup.iss"])) raw
          (Settings.standard.uuidText (composedRow "setup.exe" ["setup.exe", "setup.iss"]).id) = .ok m ∧
        Returned (composedRow "setup.exe" ["setup.exe", "setup.iss"])
          ((composed "setup.exe" ["setup.exe", "setup.iss"]).filesOf 1) m) ↔
        Distinguishable ((composed "setup.exe" ["setup.exe", "setup.iss"]).filesOf 1)) := by
  have hreach : Reachable Settings.standard (composed "setup.exe" ["setup.exe", "setup.iss"]) := ⟨_, rfl⟩
  refine readable_iff _ hreach (composedRow_get (by decide +kernel)) (by decide +kernel)
    (by decide +kernel) fun m hm _ => ?_
  have hdocument : document Settings.standard (composedRow "setup.exe" ["setup.exe", "setup.iss"])
      ((composed "setup.exe" ["setup.exe", "setup.iss"]).filesOf 1) =
        some (composedDocument "setup.exe" ["setup.exe", "setup.iss"]) := by decide +kernel
  have hm' : m = composedDocument "setup.exe" ["setup.exe", "setup.iss"] :=
    Option.some.inj (hm.symm.trans hdocument)
  rw [hm']
  exact decoder_dumps _

/-- **Two names that differ in case only.**  The server finds nothing missing; the poste refuses. -/
theorem unreadable :
    (composed "Setup.exe" ["Setup.exe", "setup.exe"]).packages.get 1 =
        some (composedRow "Setup.exe" ["Setup.exe", "setup.exe"]) ∧
      (composedRow "Setup.exe" ["Setup.exe", "setup.exe"]).kind = .files ∧
      problems (composedRow "Setup.exe" ["Setup.exe", "setup.exe"])
        ((composed "Setup.exe" ["Setup.exe", "setup.exe"]).filesOf 1) = [] ∧
      build Settings.standard (composedRow "Setup.exe" ["Setup.exe", "setup.exe"])
          ((composed "Setup.exe" ["Setup.exe", "setup.exe"]).filesOf 1) =
        some (Settings.standard.dumps (composedDocument "Setup.exe" ["Setup.exe", "setup.exe"])) ∧
      parseManifest (decoder (composedDocument "Setup.exe" ["Setup.exe", "setup.exe"]))
          (Settings.standard.dumps (composedDocument "Setup.exe" ["Setup.exe", "setup.exe"]))
          "00000000-0000-0000-0000-000000000001" =
        .error "nom de fichier refusé dans le manifeste : \"setup.exe\"" := by
  have hdocument : document Settings.standard (composedRow "Setup.exe" ["Setup.exe", "setup.exe"])
      ((composed "Setup.exe" ["Setup.exe", "setup.exe"]).filesOf 1) =
        some (composedDocument "Setup.exe" ["Setup.exe", "setup.exe"]) := by decide +kernel
  refine ⟨composedRow_get (by decide +kernel), by decide +kernel, by decide +kernel, ?_, ?_⟩
  · rw [build, hdocument]
    rfl
  · unfold parseManifest
    rw [decoder_dumps]
    rfl

end Tiai.Packages
