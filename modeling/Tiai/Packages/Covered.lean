import Tiai.Lib.Runs
import Tiai.Packages.Routes

/-!
# What a stored signature covers, when requests overlap

A request on a package is a transaction: it reads the row (`start`), reads the files and works out what it
writes (`work`), and commits the columns it has changed over the row as it is by then (`commit`).  Anything
may commit in between.

* `alone` — with nothing in between, a transaction is the route;
* `Fresh` — the manifest is `build` of what is stored, and the signature, if there is one, verifies over it;
* `Undisturbed` — what a commit has to find as the request read it;
* `signature_covers` — a signature covers what is stored, in every run of undisturbed commits.
-/

namespace Tiai.Packages

open Deploy (Bytes)
open Lib

/-! ### Overlapping requests -/

/-- A transaction under way; once it has worked, its draft and the files it worked from. -/
structure Txn where
  id : Uuid
  user : String
  edit : Edit
  read : Package
  worked : Option (Draft × List PackageFile)

/-- The committed rows, and the transactions under way. -/
structure State where
  committed : Tables
  running : Store ℕ Txn

/-- One statement of one transaction.  Nobody reads a package before its creation commits, which is thus
one event.  Row locks and key conflicts are left out: they forbid some orders, and add none. -/
inductive Event
  | create (id : Uuid) (kind : PackageKind) (payload : PackageBody)
  | start (txn : ℕ) (id : Uuid) (user : String) (edit : Edit)
  | work (txn : ℕ)
  | commit (txn : ℕ)

variable (cfg : Settings)

def step (s : State) : Event → State
  | .create id kind payload => { s with committed := serveStep cfg s.committed (.create id kind payload) }
  | .start txn id user edit =>
    match s.running.get txn, s.committed.packages.get id with
    | none, some p => { s with running := s.running.put txn ⟨id, user, edit, p, none⟩ }
    | _, _ => s
  | .work txn =>
    match s.running.get txn with
    | some ⟨id, user, edit, read, none⟩ =>
      match work cfg user read (s.committed.filesOf id) edit with
      | .ok d =>
        { s with running :=
            s.running.put txn ⟨id, user, edit, read, some (d, s.committed.filesOf id)⟩ }
      | .error _ => { s with running := s.running.drop (· = txn) }
    | _ => s
  | .commit txn =>
    match s.running.get txn with
    | some ⟨id, _, _, read, some (d, _)⟩ => ⟨d.commit id read s.committed, s.running.drop (· = txn)⟩
    | _ => s

def State.empty : State := ⟨Tables.empty, []⟩

/-! ### The condition -/

/-- The columns that the manifest is built from. -/
structure Content where
  name : String
  version : Option String
  installRun : Option String
  installArgs : Option (List String)
  uninstallRun : Option String
  uninstallArgs : Option (List String)
  successCodes : Option (List ℤ)
  deriving DecidableEq

def Package.content (p : Package) : Content :=
  ⟨p.name, p.version, p.installRun, p.installArgs, p.uninstallRun, p.uninstallArgs, p.successCodes⟩

/-- The columns that a signature is verified with. -/
structure SignatureColumns where
  signature : Option Bytes
  algorithm : Option String
  certificate : Option Bytes
  deriving DecidableEq

def Package.signatureColumns (p : Package) : SignatureColumns :=
  ⟨p.signature, p.signatureAlgorithm, p.signerCertificate⟩

/-- The draft writes nothing that the manifest covers. -/
def Idle (read : Package) (d : Draft) : Prop :=
  d.package.content = read.content ∧ d.package.manifest = read.manifest ∧ d.written = [] ∧
    d.deleted = none

/-- The package is as a change read it: what the manifest covers, the manifest, and, if the change moves it,
no signature where it saw none. -/
def Steady (read current : Package) (worked now : List PackageFile) (d : Draft) : Prop :=
  current.content = read.content ∧ current.manifest = read.manifest ∧ now = worked ∧
    (d.package.manifest ≠ read.manifest → read.signature = none → current.signature = none)

/-- The manifest is the one an attachment verified against, and the signature it replaces the one it read. -/
def Untouched (read current : Package) : Prop :=
  current.manifest = read.manifest ∧
    (read.signature = none ∨ current.signatureColumns = read.signatureColumns)

/-- What a request has to find of the package at its commit. -/
def Finds (edit : Edit) (read current : Package) (worked now : List PackageFile) (d : Draft) : Prop :=
  match edit with
  | .removeSignature => True
  | .attachSignature _ => Untouched read current
  | _ => read.kind = .files → Idle read d ∨ Steady read current worked now d

/-- **The condition.**  At its commit, a request finds what it read of the package. -/
def Undisturbed (s : State) : Event → Prop
  | .commit txn =>
    match s.running.get txn with
    | some ⟨id, _, edit, read, some (d, worked)⟩ => ∀ current ∈ s.committed.packages.get id,
        Finds edit read current worked (s.committed.filesOf id) d
    | _ => True
  | _ => True

instance (read : Package) (d : Draft) : Decidable (Idle read d) := inferInstanceAs (Decidable (_ ∧ _))

instance (read current : Package) (worked now : List PackageFile) (d : Draft) :
    Decidable (Steady read current worked now d) := inferInstanceAs (Decidable (_ ∧ _))

instance (read current : Package) : Decidable (Untouched read current) :=
  inferInstanceAs (Decidable (_ ∧ _))

instance (edit : Edit) (read current : Package) (worked now : List PackageFile) (d : Draft) :
    Decidable (Finds edit read current worked now d) := by
  unfold Finds
  split <;> infer_instance

instance (s : State) (e : Event) : Decidable (Undisturbed s e) := by
  unfold Undisturbed
  split
  · split <;> infer_instance
  · infer_instance

/-! ### Alone -/

section Alone

variable {cfg}

/-- **With nothing in between, a transaction is the route.** -/
theorem alone (t : Tables) (txn : ℕ) (id : Uuid) (user : String) (edit : Edit) :
    (run (step cfg) ⟨t, []⟩ [.start txn id user edit, .work txn, .commit txn]).committed =
      serveStep cfg t (.edit id user edit) := by
  rw [run_cons, run_cons, run_cons, run_nil]
  cases hp : t.packages.get id with
  | none =>
    have hserve : serveStep cfg t (.edit id user edit) = t := by
      simp only [serveStep, serve, requirePackage, hp]
      rfl
    have hstart : step cfg ⟨t, []⟩ (.start txn id user edit) = ⟨t, []⟩ := by
      simp only [step, hp, Store.get_nil]
    rw [hserve, hstart]
    rfl
  | some p =>
    have hstart : step cfg ⟨t, []⟩ (.start txn id user edit) =
        ⟨t, Store.put [] txn ⟨id, user, edit, p, none⟩⟩ := by
      simp only [step, hp, Store.get_nil]
    have hserve : serve cfg t (.edit id user edit) = (do
        let d ← work cfg user p (t.filesOf id) edit
        return d.commit id p t) := by
      simp only [serve, requirePackage, hp, ok_bind]
    rw [hstart, serveStep, hserve]
    cases hd : work cfg user p (t.filesOf id) edit with
    | error refusal =>
      simp only [step, Store.get_put_self, hd, Store.get_drop]
      rfl
    | ok d =>
      simp only [step, Store.get_put_self, hd]
      rfl

end Alone

/-! ### What a commit keeps -/

/-- The columns of the signature are all null, or a signature that verifies over the manifest. -/
def SignatureOk (cfg : Settings) (p : Package) : Prop :=
  p.signatureColumns = ⟨none, none, none⟩ ∨
    ∃ signature algorithm certificate manifest, p.kind = .files ∧
      p.signatureColumns = ⟨some signature, some algorithm, some certificate⟩ ∧
      p.manifest = some manifest ∧ verifies cfg algorithm signature certificate manifest = true

/-- The manifest is what `build` makes of what is stored, and the signature verifies over it. -/
structure Fresh (cfg : Settings) (p : Package) (files : List PackageFile) : Prop where
  built : p.kind = .files → ∃ built, build cfg p files = some built ∧ p.manifest = some built
  signed : SignatureOk cfg p

section Commit

variable {cfg} {user : String} {read current p q : Package} {d : Draft} {edit : Edit}
  {files worked now : List PackageFile}

/-- `build` reads the identifier and the columns of the content. -/
lemma build_congr (hid : p.id = q.id) (h : p.content = q.content) :
    build cfg p files = build cfg q files := by
  simp only [Package.content, Content.mk.injEq] at h
  obtain ⟨hname, hversion, hrun, hargs, hrun', hargs', hcodes⟩ := h
  simp only [build, document, hid, hname, hversion, hrun, hargs, hrun', hargs', hcodes]

lemma SignatureOk.congr (h : SignatureOk cfg p) (hkind : q.kind = p.kind)
    (hcolumns : q.signatureColumns = p.signatureColumns) (hmanifest : q.manifest = p.manifest) :
    SignatureOk cfg q := by
  unfold SignatureOk
  rw [hkind, hcolumns, hmanifest]
  exact h

lemma SignatureOk.of_none (h : SignatureOk cfg p) (hnone : p.signature = none) :
    p.signatureColumns = ⟨none, none, none⟩ := by
  rcases h with h | ⟨signature, algorithm, certificate, manifest, -, h, -⟩
  · exact h
  · have hsome : p.signature = some signature := congrArg SignatureColumns.signature h
    cases hnone.symm.trans hsome

lemma SignatureOk.of_some (h : SignatureOk cfg p) (hsome : p.signature ≠ none) :
    p.signature ≠ none ∧ p.signatureAlgorithm ≠ none ∧ p.signerCertificate ≠ none := by
  rcases h with h | ⟨signature, algorithm, certificate, manifest, -, h, -⟩
  · exact absurd (congrArg SignatureColumns.signature h) hsome
  · simp only [Package.signatureColumns, SignatureColumns.mk.injEq] at h
    obtain ⟨h, h', h''⟩ := h
    rw [h, h', h'']
    exact ⟨nofun, nofun, nofun⟩

/-- The content a commit leaves, where the row still has what was read. -/
lemma content_of_steady (h : current.content = read.content) :
    (read.writeBack q current).content = q.content := by
  simp only [Package.content, Content.mk.injEq] at h ⊢
  obtain ⟨hname, hversion, hrun, hargs, hrun', hargs', hcodes⟩ := h
  exact ⟨writeBack_eq_new fun e => hname.trans e, writeBack_eq_new fun e => hversion.trans e,
    writeBack_eq_new fun e => hrun.trans e, writeBack_eq_new fun e => hargs.trans e,
    writeBack_eq_new fun e => hrun'.trans e, writeBack_eq_new fun e => hargs'.trans e,
    writeBack_eq_new fun e => hcodes.trans e⟩

/-- The content a commit leaves, where the request has changed none of it. -/
lemma content_of_idle (h : q.content = read.content) :
    (read.writeBack q current).content = current.content := by
  simp only [Package.content, Content.mk.injEq] at h ⊢
  obtain ⟨hname, hversion, hrun, hargs, hrun', hargs', hcodes⟩ := h
  exact ⟨if_pos hname, if_pos hversion, if_pos hrun, if_pos hargs, if_pos hrun', if_pos hargs',
    if_pos hcodes⟩

/-- The same of the signature. -/
lemma signatureColumns_of_idle (h : q.signatureColumns = read.signatureColumns) :
    (read.writeBack q current).signatureColumns = current.signatureColumns := by
  simp only [Package.signatureColumns, SignatureColumns.mk.injEq] at h ⊢
  exact ⟨if_pos h.1, if_pos h.2.1, if_pos h.2.2⟩

/-- A request that clears the signature leaves none, if it saw the one that is there. -/
lemma signatureColumns_cleared (hread : SignatureOk cfg read) (hcurrent : SignatureOk cfg current)
    (hq : q.signatureColumns = ⟨none, none, none⟩)
    (h : read.signature = none → current.signature = none) :
    (read.writeBack q current).signatureColumns = ⟨none, none, none⟩ := by
  by_cases hnone : read.signature = none
  · rw [signatureColumns_of_idle (hq.trans (hread.of_none hnone).symm)]
    exact hcurrent.of_none (h hnone)
  · obtain ⟨hsignature, halgorithm, hcertificate⟩ := hread.of_some hnone
    simp only [Package.signatureColumns, SignatureColumns.mk.injEq] at hq ⊢
    simp only [Package.writeBack, hq]
    exact ⟨writeBack_of_ne hsignature.symm _, writeBack_of_ne halgorithm.symm _,
      writeBack_of_ne hcertificate.symm _⟩

lemma applyBody_signature {body : PackageBody} (h : applyBody p body = .ok q) :
    q.manifest = p.manifest ∧ q.signatureColumns = p.signatureColumns := by
  obtain ⟨⟨name, detect, rfl⟩, -⟩ := applyBody_ok h
  exact ⟨rfl, rfl⟩

/-- **A change of the content**: an update, an upload or a deletion. -/
lemma change_fresh (applied : Package) (hcurrent : Fresh cfg current now) (hread : SignatureOk cfg read)
    (hid : current.id = read.id) (hkind : current.kind = read.kind) (hid' : applied.id = read.id)
    (hkind' : applied.kind = read.kind) (hmanifest : applied.manifest = read.manifest)
    (hsignature : applied.signatureColumns = read.signatureColumns)
    (hrefreshed : refreshManifest cfg applied (d.files worked) = .ok d.package)
    (h : read.kind = .files → Idle read d ∨ Steady read current worked now d) :
    Fresh cfg (read.writeBack d.package current) (d.files now) := by
  rcases refreshManifest_ok hrefreshed with
    ⟨hwinget, hd⟩ | ⟨hfilesKind, built, hbuilt, ⟨hsame, hd⟩ | ⟨hmoved, hd⟩⟩
  · -- a winget package has no manifest
    have hnot : read.kind ≠ .files := by
      rw [← hkind', hwinget]
      decide
    refine ⟨fun hfiles => absurd (hkind.symm.trans hfiles) hnot, hcurrent.signed.congr rfl ?_ ?_⟩
    · exact signatureColumns_of_idle (hd ▸ hsignature)
    · exact if_pos (hd ▸ hmanifest)
  · -- the bytes did not move
    have hcolumns : (read.writeBack d.package current).signatureColumns = current.signatureColumns :=
      signatureColumns_of_idle (hd ▸ hsignature)
    have hkept : (read.writeBack d.package current).manifest = current.manifest :=
      if_pos (hd ▸ hmanifest)
    refine ⟨fun hfiles => ?_, hcurrent.signed.congr rfl hcolumns hkept⟩
    obtain ⟨stored, hstored, hm⟩ := hcurrent.built hfiles
    rcases h (hkind.symm.trans hfiles) with ⟨hcontent, -, hwritten, hdeleted⟩ | ⟨hcontent, hman, hnow, -⟩
    · have hfilesNow : d.files now = now := by
        simp [Draft.files, hwritten, hdeleted]
      refine ⟨stored, ?_, hkept.trans hm⟩
      rw [hfilesNow, build_congr (p := read.writeBack d.package current) (q := current) rfl
        (content_of_idle hcontent)]
      exact hstored
    · refine ⟨built, ?_, ?_⟩
      · have hdid : (read.writeBack d.package current).id = d.package.id := by
          rw [hd, hid']
          exact hid
        rw [build_congr hdid (content_of_steady hcontent), hnow, hd]
        exact hbuilt
      · rw [hkept, hman, ← hmanifest, hsame]
  · -- the bytes moved: the signature goes
    have hmoved' : d.package.manifest ≠ read.manifest := by
      rw [hd, ← hmanifest]
      exact fun h => hmoved h.symm
    rcases h (hkind'.symm.trans hfilesKind) with ⟨-, hidle, -⟩ | ⟨hcontent, hman, hnow, hsees⟩
    · exact absurd hidle hmoved'
    have hcleared := signatureColumns_cleared hread hcurrent.signed
      (q := d.package) (by rw [hd]; rfl) (hsees hmoved')
    refine ⟨fun _ => ⟨built, ?_, ?_⟩, .inl hcleared⟩
    · have hdid : (read.writeBack d.package current).id = d.package.id := by
        rw [hd]
        exact hid.trans hid'.symm
      rw [build_congr hdid (content_of_steady hcontent), hnow, hd, build_rebuilt]
      exact hbuilt
    · have hnew : (read.writeBack d.package current).manifest = d.package.manifest :=
        writeBack_of_ne hmoved' _
      rw [hnew, hd]
      rfl

/-- **A signature**, verified over the manifest that is still there. -/
lemma attach_fresh (hcurrent : Fresh cfg current files)
    (hkind : current.kind = read.kind) (hfiles : read.kind = .files) {v : Verified}
    (hverified : verifies cfg v.algorithm v.signature v.certificate (read.manifest.getD []) = true)
    (hread : SignatureOk cfg read) (h : Untouched read current) :
    Fresh cfg (read.writeBack (read.signed v user) current) files := by
  obtain ⟨built, hbuilt, hmanifest⟩ := hcurrent.built (hkind.trans hfiles)
  have hkept : (read.writeBack (read.signed v user) current).manifest = current.manifest := if_pos rfl
  have hcontent : (read.writeBack (read.signed v user) current).content = current.content :=
    content_of_idle rfl
  refine ⟨fun _ => ⟨built, ?_, hkept.trans hmanifest⟩, .inr ⟨v.signature, v.algorithm, v.certificate,
    built, hkind.trans hfiles, ?_, hkept.trans hmanifest, ?_⟩⟩
  · rw [build_congr (p := read.writeBack (read.signed v user) current) (q := current) rfl hcontent]
    exact hbuilt
  · rcases h.2 with hnone | hsame
    · have hcolumns := hread.of_none hnone
      simp only [Package.signatureColumns, SignatureColumns.mk.injEq] at hcolumns ⊢
      simp only [Package.writeBack, Package.signed, hcolumns]
      exact ⟨writeBack_of_ne (Option.some_ne_none _) _, writeBack_of_ne (Option.some_ne_none _) _,
        writeBack_of_ne (Option.some_ne_none _) _⟩
    · simp only [Package.signatureColumns, SignatureColumns.mk.injEq] at hsame ⊢
      exact ⟨writeBack_eq_new fun e => hsame.1.trans e, writeBack_eq_new fun e => hsame.2.1.trans e,
        writeBack_eq_new fun e => hsame.2.2.trans e⟩
  · rwa [← h.1, hmanifest] at hverified

/-- **A removal** clears the signature it read, or leaves what it did not see. -/
lemma remove_fresh (hcurrent : Fresh cfg current files) (hread : SignatureOk cfg read) :
    Fresh cfg (read.writeBack read.unsigned current) files := by
  have hkept : (read.writeBack read.unsigned current).manifest = current.manifest := if_pos rfl
  refine ⟨fun hfiles => ?_, ?_⟩
  · obtain ⟨built, hbuilt, hmanifest⟩ := hcurrent.built hfiles
    refine ⟨built, ?_, hkept.trans hmanifest⟩
    rw [build_congr (p := read.writeBack read.unsigned current) (q := current) rfl (content_of_idle rfl)]
    exact hbuilt
  · by_cases hnone : read.signature = none
    · refine hcurrent.signed.congr rfl (signatureColumns_of_idle ?_) hkept
      exact (hread.of_none hnone).symm
    · exact .inl (signatureColumns_cleared hread hcurrent.signed rfl fun h => absurd h hnone)

/-- **A commit that finds what it read keeps the package fresh.** -/
theorem Worked.fresh (hw : Worked cfg user read worked edit d) (hcurrent : Fresh cfg current now)
    (hread : SignatureOk cfg read) (hid : current.id = read.id) (hkind : current.kind = read.kind)
    (h : Finds edit read current worked now d) :
    Fresh cfg (read.writeBack d.package current) (d.files now) := by
  cases hw with
  | update payload applied refreshed _ happlied hrefreshed =>
    have hkey := applyBody_key happlied
    have hsignature := applyBody_signature happlied
    refine change_fresh applied hcurrent hread hid hkind hkey.1 hkey.2 hsignature.1 hsignature.2 ?_ h
    rw [Draft.files_none]
    exact hrefreshed
  | upload uploads written refreshed _ _ hrefreshed =>
    exact change_fresh read hcurrent hread hid hkind rfl rfl rfl rfl hrefreshed h
  | deleteFile name refreshed _ hrefreshed =>
    exact change_fresh read hcurrent hread hid hkind rfl rfl rfl rfl hrefreshed h
  | attachSignature document v hfiles _ hverified =>
    rw [Draft.files_none]
    exact attach_fresh hcurrent hkind hfiles (verify_verifies hverified) hread h
  | removeSignature =>
    rw [Draft.files_none]
    exact remove_fresh hcurrent hread

lemma createPackage_fresh {id : Uuid} {kind : PackageKind} {payload : PackageBody}
    (h : createPackage cfg id kind payload = .ok p) : Fresh cfg p [] := by
  unfold createPackage at h
  split at h
  · obtain ⟨⟨⟩, -, h⟩ := bind_eq_ok h
    obtain ⟨applied, happlied, h⟩ := bind_eq_ok h
    obtain ⟨⟨name, detect, rfl⟩, -⟩ := applyBody_ok happlied
    rcases refreshManifest_ok h with
      ⟨hwinget, rfl⟩ | ⟨-, built, hbuilt, ⟨hsame, rfl⟩ | ⟨-, rfl⟩⟩
    · exact ⟨fun hfiles => (nomatch hwinget.symm.trans hfiles), .inl rfl⟩
    · exact ⟨fun _ => ⟨built, hbuilt, hsame⟩, .inl rfl⟩
    · exact ⟨fun _ => ⟨built, hbuilt, rfl⟩, .inl rfl⟩
  · cases h

end Commit

/-! ### Runs -/

/-- What a transaction under way knows of the committed row of its package. -/
structure Txn.Ok (cfg : Settings) (t : Tables) (txn : Txn) : Prop where
  read : SignatureOk cfg txn.read
  row : ∃ current, t.packages.get txn.id = some current ∧ current.id = txn.read.id ∧
    current.kind = txn.read.kind
  worked : ∀ d worked, txn.worked = some (d, worked) →
    Worked cfg txn.user txn.read worked txn.edit d

/-- The invariant of the runs. -/
structure Inv (cfg : Settings) (s : State) : Prop where
  fresh : s.committed.All (Fresh cfg)
  running : ∀ txn t, s.running.get txn = some t → t.Ok cfg s.committed

section Runs

variable {cfg} {s : State} {t t' : Tables} {e : Event}

/-- A row that is written keeps its identifier and its kind. -/
lemma Txn.Ok.mono {txn : Txn} (h : txn.Ok cfg t)
    (hrows : ∀ id p, t.packages.get id = some p →
      ∃ p', t'.packages.get id = some p' ∧ p'.id = p.id ∧ p'.kind = p.kind) : txn.Ok cfg t' := by
  obtain ⟨current, hget, hid, hkind⟩ := h.row
  obtain ⟨current', hget', hid', hkind'⟩ := hrows _ current hget
  exact ⟨h.read, ⟨current', hget', hid'.trans hid, hkind'.trans hkind⟩, h.worked⟩

lemma commit_rows (d : Draft) (id : Uuid) (read : Package) (t : Tables) (other : Uuid) (p : Package)
    (h : t.packages.get other = some p) :
    ∃ p', (d.commit id read t).packages.get other = some p' ∧ p'.id = p.id ∧ p'.kind = p.kind := by
  unfold Draft.commit
  split
  · exact ⟨p, h, rfl, rfl⟩
  · rename_i current hcurrent
    by_cases hother : other = id
    · subst hother
      obtain rfl := Option.some.inj (hcurrent.symm.trans h)
      exact ⟨_, Store.get_put_self .., rfl, rfl⟩
    · exact ⟨p, by rw [Store.get_put_of_ne _ _ hother, h], rfl, rfl⟩

/-- **What one step keeps.** -/
theorem step_inv (hs : Inv cfg s) (hg : Undisturbed s e) : Inv cfg (step cfg s e) := by
  cases e with
  | create id kind payload =>
    simp only [step, serveStep]
    split
    · rename_i t' ht
      obtain ⟨p, hp, ht⟩ := bind_eq_ok ht
      split at ht
      · cases ht
      rename_i hfree
      obtain rfl := Except.ok.inj ht
      have hnone : s.committed.packages.get id = none := by simpa using hfree
      refine ⟨hs.fresh.create hnone (createPackage_id hp) (createPackage_fresh hp), fun txn t ht => ?_⟩
      refine (hs.running txn t ht).mono fun other q hq => ⟨q, ?_, rfl, rfl⟩
      have hne : other ≠ id := by
        rintro rfl
        cases hnone.symm.trans hq
      rw [Store.get_put_of_ne _ _ hne, hq]
    · exact hs
  | start txn id user edit =>
    simp only [step]
    split
    · rename_i p _ hp
      refine ⟨hs.fresh, fun other t ht => ?_⟩
      by_cases hother : other = txn
      · subst hother
        rw [Store.get_put_self] at ht
        obtain rfl := Option.some.inj ht
        exact ⟨(hs.fresh.holds id p hp).signed, ⟨p, hp, rfl, rfl⟩, fun d worked h => by cases h⟩
      · rw [Store.get_put_of_ne _ _ hother] at ht
        exact hs.running other t ht
    · exact hs
  | work txn =>
    simp only [step]
    split
    · rename_i id user edit read htxn
      have hok := hs.running txn _ htxn
      split
      · rename_i d hd
        refine ⟨hs.fresh, fun other t ht => ?_⟩
        by_cases hother : other = txn
        · subst hother
          rw [Store.get_put_self] at ht
          obtain rfl := Option.some.inj ht
          refine ⟨hok.read, hok.row, ?_⟩
          rintro d' worked ⟨⟩
          exact work_cases hd
        · rw [Store.get_put_of_ne _ _ hother] at ht
          exact hs.running other t ht
      · refine ⟨hs.fresh, fun other t ht => ?_⟩
        rw [Store.get_drop] at ht
        split at ht
        · cases ht
        · exact hs.running other t ht
    · exact hs
  | commit txn =>
    simp only [Undisturbed] at hg
    simp only [step]
    split
    · rename_i id user edit read d worked htxn
      rw [htxn] at hg
      have hok := hs.running txn _ htxn
      obtain ⟨current, hcurrent, hid, hkind⟩ := hok.row
      have hfresh : Fresh cfg (read.writeBack d.package current) (d.files (s.committed.filesOf id)) :=
        (hok.worked d worked rfl).fresh (hs.fresh.holds id current hcurrent) hok.read hid hkind
          (hg current hcurrent)
      refine ⟨hs.fresh.commit hcurrent hfresh, fun other t ht => ?_⟩
      rw [Store.get_drop] at ht
      split at ht
      · cases ht
      · exact (hs.running other t ht).mono (commit_rows d id read s.committed)
    · exact hs

end Runs

/-- The stored signature verifies over the stored manifest, which is `build` of the fields and files. -/
def covers (p : Package) (files : List PackageFile) : Bool :=
  match p.signature, p.signatureAlgorithm, p.signerCertificate, p.manifest with
  | some signature, some algorithm, some certificate, some manifest =>
    verifies cfg algorithm signature certificate manifest && build cfg p files = some manifest
  | _, _, _, _ => false

lemma Fresh.covers {p : Package} {files : List PackageFile} (h : Fresh cfg p files)
    (hsigned : p.signature ≠ none) : covers cfg p files = true := by
  rcases h.signed with hnone | ⟨signature, algorithm, certificate, manifest, hkind, hcolumns,
    hmanifest, hverifies⟩
  · exact absurd (congrArg SignatureColumns.signature hnone) hsigned
  · obtain ⟨built, hbuilt, hstored⟩ := h.built hkind
    obtain rfl := Option.some.inj (hmanifest.symm.trans hstored)
    simp only [Package.signatureColumns, SignatureColumns.mk.injEq] at hcolumns
    simp only [Packages.covers, hcolumns.1, hcolumns.2.1, hcolumns.2.2, hmanifest, hverifies, hbuilt]
    rfl

/-- **A stored signature covers what is stored**, in every run whose commits find what their requests
read. -/
theorem signature_covers (cfg : Settings) (events : List Event)
    (hg : Guarded (step cfg) Undisturbed State.empty events) (id : Uuid) (p : Package)
    (hp : (run (step cfg) State.empty events).committed.packages.get id = some p)
    (hsigned : p.signature ≠ none) :
    covers cfg p ((run (step cfg) State.empty events).committed.filesOf id) = true := by
  have hinv : Inv cfg (run (step cfg) State.empty events) :=
    hg.invariant (fun s e hg hs => step_inv hs hg) ⟨Tables.All.empty, fun _ _ h => (nomatch h)⟩
  exact (hinv.fresh.holds id p hp).covers cfg hsigned

/-! ### A package, and its signature -/

/-- A package that runs the one file it has. -/
def composing : List Event :=
  [.create 1 .files { PackageBody.empty with
      name := some (some "PRONOTE"), installRun := some (some "setup.exe") },
    .start 0 1 "admin@test.local" (.upload [⟨some "setup.exe", []⟩]), .work 0, .commit 0]

/-- A server where one signature verifies, over that package's manifest alone.  Of a manifest's bytes it
keeps the names of the files. -/
def notary : Settings :=
  { Settings.standard with
    dumps := fun m => m.files.flatMap fun f => asciiBytes f.name.toList
    b64decode := fun _ => some [0x30, 0x82]
    rsaVerify := fun _ _ manifest => manifest = asciiBytes "setup.exe".toList }

/-- The document of that signature. -/
def composingSignature : SignatureDocument where
  format := some "tiai-signature-1"
  algorithm := some "rsa-pkcs1-sha256"
  signature := "MII="
  certificate := "MII="

/-- The package is signed. -/
def signing : List Event :=
  composing ++ [.start 1 1 "admin@test.local" (.attachSignature composingSignature), .work 1, .commit 1]

/-- An upload starts, the package is signed, and the upload ends. -/
def overtaken : List Event :=
  composing ++ [.start 1 1 "tech@test.local" (.upload [⟨some "setup.iss", []⟩]),
    .start 2 1 "admin@test.local" (.attachSignature composingSignature), .work 2, .commit 2,
    .work 1, .commit 1]

/-- The tables a run leaves. -/
def left (events : List Event) : Tables := (run (step notary) State.empty events).committed

/-- The package's row in them. -/
def row (events : List Event) : Package := ((left events).packages.get 1).getD (Package.new 1 .files "")

lemma row_get {events : List Event} (h : ((left events).packages.get 1).isSome = true) :
    (left events).packages.get 1 = some (row events) := by
  obtain ⟨p, hp⟩ := Option.isSome_iff_exists.1 h
  rw [row, hp]
  rfl

theorem signature_covers_once :
    covers notary (row signing) ((left signing).filesOf 1) = true := by
  have hg : Guarded (step notary) Undisturbed State.empty signing := by decide +kernel
  have hp : (left signing).packages.get 1 = some (row signing) := row_get (by decide +kernel)
  have hsigned : (row signing).signature ≠ none := by decide +kernel
  exact signature_covers notary signing hg 1 (row signing) hp hsigned

/-- **An upload that saw no signature** leaves the one that was attached meanwhile, over another manifest. -/
theorem uncovered :
    (left overtaken).packages.get 1 = some (row overtaken) ∧ (row overtaken).signature ≠ none ∧
      covers notary (row overtaken) ((left overtaken).filesOf 1) = false := by
  have hsome : ((left overtaken).packages.get 1).isSome = true := by decide +kernel
  have hsigned : (row overtaken).signature ≠ none := by decide +kernel
  exact ⟨row_get hsome, hsigned, by decide +kernel⟩

end Tiai.Packages
