import Tiai.Deploy.Handling
import Tiai.Deploy.OnlyTrusted

/-!
# What a package command may write

A command's identifier and a package's are joined to the agent's folders as they come.

* `Confined` — only the queue's folder, and one folder directly under the packages', have changed;
* `Stays` — where both identifiers stay inside;
* `confined_iff` — these are the commands whose handling is confined, whatever the world answers;
* `escapes` — one that is not.
-/

namespace Tiai.Deploy

open Tiai.Lib

section Folders

variable (host : Host) (x : String)

/-- Inside the queue's folder, or the folder `x` under the packages'. -/
def Inside (p : Path) : Prop := Below host.queueDir p ∨ Below (host.packagesDir ++ [x]) p

/-- One of these folders, or one under it. -/
def Within (dir : Path) : Prop := host.queueDir <+: dir ∨ host.packagesDir ++ [x] <+: dir

/-- What was changed is inside the queue's folder and one folder directly under the packages'. -/
def Confined (files files' : Store Path Bytes) : Prop :=
  ∃ x, Plain x ∧ Store.SameOff (Inside host x) files files'

variable (policy : Policy) (cmd : PackageCommand)

/-- The folder a command unpacks its package in, when nothing refuses it before. -/
def unpackFolder : Option Path :=
  match cmd.package with
  | none => none
  | some pkg =>
    if policy.enabled = true ∧ pkg.kind = "files" then
      match prepare host policy (actionOf cmd.type) pkg with
      | .ok _ => some (packageDir host pkg.id)
      | .error _ => none
    else none

/-- The identifiers stay inside: that of the command, as the name of a queued item, and that of the
package, as the name of a folder. -/
def Stays : Prop :=
  ∃ x, Plain x ∧ Inside host x (join host.queueDir (itemName "" cmd.id)) ∧
    ∀ dir, unpackFolder host policy cmd = some dir → Within host x dir

end Folders

section Names

variable {host : Host} {x : String}

lemma inside_append (dir : Path) (c : String) : Inside host x (dir ++ [c]) ↔ Within host x dir := by
  unfold Inside Within
  rw [below_append, below_append]

lemma inside_of_below {dir p : Path} (h : Within host x dir) (hp : Below dir p) : Inside host x p :=
  h.imp (fun h => below_of_prefix h hp) fun h => below_of_prefix h hp

lemma plain_of_mem {t : String} {c : Char} (h : c ∈ t.toList) (hc : c ≠ '.') : Plain t := by
  refine ⟨?_, ?_, ?_⟩ <;> rintro rfl <;> simp_all

/-- What an item's name may begin with, before the command. -/
def Opens (pre : String) : Prop := Bare pre ∧ '_' ∈ pre.toList

/-- What it may end with. -/
def Closes (post : String) : Prop := Bare post ∧ 'j' ∈ post.toList

lemma opens_stamp (s : Stamp) : Opens (s.val ++ "_") := by
  refine ⟨fun c hc => ?_, by simp⟩
  rw [String.toList_append, List.mem_append] at hc
  rcases hc with hc | hc
  · rcases s.property c hc with hdigit | rfl | rfl
    · have hascii := isAlnum_ascii (c := c) (by simp [isAlnum, hdigit])
      exact ascii_cases (P := fun c => isDigit c = true → isSeparator c = false) (by decide) hascii
        hdigit
    · rfl
    · rfl
  · obtain rfl : c = '_' := by simpa using hc
    rfl

/-- Neither the time nor the ending of an item's name moves it in or out. -/
lemma inside_item (id : String) {pre pre' post post' : String} (hpre : Opens pre)
    (hpre' : Opens pre') (hpost : Closes post) (hpost' : Closes post')
    (h : Inside host x (join host.queueDir (pre ++ id ++ post))) :
    Inside host x (join host.queueDir (pre' ++ id ++ post')) := by
  obtain ⟨parent, hparent, hjoin⟩ := join_around (d := host.queueDir) id
  have hplain {pre : String} (h : Opens pre) (c : String) : Plain (pre ++ c) :=
    plain_of_mem (c := '_') (by simp [h.2]) (by decide)
  have hplain' {post : String} (h : Closes post) (c : String) : Plain (c ++ post) :=
    plain_of_mem (c := 'j') (by simp [h.2]) (by decide)
  obtain ⟨c, hc⟩ := hjoin pre post hpre.1 hpost.1 (hplain hpre) (hplain' hpost)
  obtain ⟨c', hc'⟩ := hjoin pre' post' hpre'.1 hpost'.1 (hplain hpre') (hplain' hpost')
  rw [hc, inside_append] at h
  rw [hc', inside_append]
  rcases hparent pre pre' with heq | ⟨-, hin⟩
  · exact heq ▸ h
  · exact .inl hin

lemma opens_empty : Opens ("" ++ "_") := ⟨text_cases (by decide), by decide⟩

lemma closes_final : Closes ".json" := ⟨text_cases (by decide), by decide⟩

lemma closes_tmp : Closes (".json" ++ ".tmp") := ⟨text_cases (by decide), by decide⟩

lemma itemName_tmp (createdAt id : String) :
    itemName createdAt id ++ ".tmp" = createdAt ++ "_" ++ id ++ (".json" ++ ".tmp") :=
  String.append_assoc ..

/-- Inside once, an item is inside at any time, and under its temporary name. -/
lemma queueFrame_inside {id : String} (h : Inside host x (join host.queueDir (itemName "" id))) :
    QueueFrame host (Inside host x) id where
  item := fun p hp => .inl (isItem_below hp)
  final := fun s => inside_item id opens_empty (opens_stamp s) closes_final closes_final h
  tmp := by
    intro s
    rw [itemName_tmp]
    exact inside_item id opens_empty (opens_stamp s) closes_final closes_tmp h

end Names

/-! ### Where both identifiers stay inside -/

section Confined

variable {host : Host} {ans : Answers} {policy : Policy} {F : Path → Prop} {I : World → Prop}
  {action : DeployAction} {pkg : PackageDelivery}

/-- Starting a program changes no file. -/
def StartProof (I : World → Prop) : Prop := ∀ w l, I w → I { w with launched := l }

lemma run_keeps (hI : Stable ans F I) (hstart : StartProof I) (exe : Path) (args : List String)
    (dir : Path) : Keeps I (run ans exe args dir) :=
  (Keeps.modify fun w hw => hstart w _ hw).bind fun _ => (hI.ask _).bind fun r => .lift r

lemma approve_keeps {plan : Plan} (exe : Path) : Keeps I (approve host policy plan exe) :=
  (approve_spec exe).conseq (fun _ h => h) (fun _ _ h => h.1) fun _ _ h => h

lemma conclude_keeps (hI : Stable ans F I) {plan : Plan} {dir : Path} (hF : ∀ p, Below dir p → F p)
    (note : String) (code : ℤ) : Keeps I (conclude ans action plan dir note code) :=
  .ite (.fail _) ((hI.remove fun p hp => hF p (isBelow_iff.1 hp)).bind fun _ => .ret _)

lemma executeWinget_keeps (hI : Stable ans F I) (hstart : StartProof I) :
    Keeps I (executeWinget host ans policy action pkg) :=
  (Keeps.lift _).bind fun _ => (Keeps.lift _).bind fun _ => (Keeps.lift _).bind fun _ =>
    (run_keeps hI hstart _ _ _).mapError.bind fun _ => .ite (.fail _) (.ret _)

/-- What follows the choice of a plan writes under the package's folder. -/
lemma executeFiles_keeps (hI : Stable ans F I) (hstart : StartProof I)
    (hF : ∀ plan, prepare host policy action pkg = .ok plan →
      ∀ p, Below (packageDir host pkg.id) p → F p) :
    Keeps I (executeFiles host ans policy action pkg) := by
  cases hplan : prepare host policy action pkg with
  | error e =>
    unfold executeFiles
    rw [hplan]
    exact Triple.bind (Triple.lift (Q := fun _ _ => False) (fun _ h => by cases h) fun _ _ _ hw => hw)
      fun plan w hw => hw.elim
  | ok plan =>
    have hF' := hF plan hplan
    have hm := prepare_wellFormed hplan
    unfold executeFiles
    rw [hplan]
    refine Triple.bind (Triple.lift (Q := fun plan' w => I w ∧ plan' = plan)
      (fun plan' h w hw => ⟨hw, (Except.ok.inj h).symm⟩) fun _ h => by cases h) fun plan' => ?_
    by_cases hsame : plan' = plan
    swap
    · exact fun w hw => absurd hw.2 hsame
    subst hsame
    refine Triple.mono_pre ?_ fun w hw => hw.1
    refine (hI.fileCall _).mapError.bind fun _ => ?_
    have hdownload : Keeps I (downloadAll host ans pkg.id (packageDir host pkg.id) plan'.manifest.files) :=
      .forEach fun f hf => by
        have hbelow : F (packageDir host pkg.id ++ [f.name]) := hF' _ ⟨f.name, [], rfl⟩
        rw [(hm.named f hf).join]
        exact (download_keeps hI hbelow).mapError
    exact hdownload.bind fun _ => (approve_keeps _).bind fun note =>
      (run_keeps hI hstart _ _ _).mapError.bind fun code => conclude_keeps hI hF' _ _

lemma execute_keeps {cmd : PackageCommand} (hI : Stable ans F I) (hstart : StartProof I)
    (hF : ∀ dir, unpackFolder host policy cmd = some dir → ∀ p, Below dir p → F p) :
    Keeps I (execute host ans policy cmd.type cmd.package) := by
  unfold execute
  cases hpkg : cmd.package with
  | none => exact .fail _
  | some pkg =>
    dsimp only
    split
    · exact .fail _
    rename_i henabled
    refine .ite (executeWinget_keeps hI hstart) ?_
    split
    · rename_i hkind
      refine executeFiles_keeps hI hstart fun plan hplan => hF _ ?_
      unfold unpackFolder
      rw [hpkg]
      dsimp only
      rw [if_pos ⟨by simpa using henabled, hkind⟩, hplan]
    · exact .fail _

/-- That the files are as before, off `F`, is kept by what writes where `F` holds. -/
lemma sameOff_stable (files : Store Path Bytes) :
    Stable ans F fun w => Store.SameOff F files w.files where
  call := fun _ h => h
  put := fun w _ b hp h => h.trans (.put w.files b hp)
  drop := fun w _ hq h => h.trans (.drop w.files fun p hp => (hq p hp).1)

/-- **Identifiers that stay inside confine the handling.** -/
theorem confined_of_stays {cmd : PackageCommand} (h : Stays host policy cmd) (w : World) :
    Confined host w.files (handle host ans policy cmd w).2.files := by
  obtain ⟨x, hx, hqueue, hdir⟩ := h
  have hI : Stable ans (Inside host x) fun w' => Store.SameOff (Inside host x) w.files w'.files :=
    sameOff_stable _
  have hkeep : Keeps (fun w' => Store.SameOff (Inside host x) w.files w'.files)
      (handle host ans policy cmd) :=
    handle_keeps hI (queueFrame_inside hqueue)
      (execute_keeps hI (fun _ _ hw => hw) fun dir hd p hp => inside_of_below (hdir dir hd) hp)
  exact ⟨x, hx, Triple.final hkeep (Store.SameOff.refl _ _)⟩

end Confined

/-! ### Where one does not -/

/-- A world that writes what it is asked to, and takes nothing back. -/
def hostile : Answers :=
  { offline with file := fun call _ => if call = .rename then some "accès refusé" else none }

section Escapes

variable {host : Host} {policy : Policy} {I : World → Prop} {p : Path} {id : String} {f : FileRef}

def Present (p : Path) (w : World) : Prop := (w.files.get p).isSome = true

lemma present_kept : Stable hostile (fun _ => True) (Present p) where
  call := fun _ h => h
  put := by
    intro w q b _ h
    by_cases hq : p = q
    · subst hq
      simp [Present]
    · unfold Present
      rw [Store.get_put_of_ne _ _ hq]
      exact h
  drop := by
    intro w q hq h
    unfold Present
    rw [Store.get_drop, if_neg fun hp => ?_]
    · exact h
    · obtain ⟨n, hn | hn⟩ := (hq p hp).2
      · cases hn
      · cases hn

lemma anything_kept : Stable hostile (fun _ => True) fun _ => True where
  call := fun _ h => h
  put := fun _ _ _ _ h => h
  drop := fun _ _ _ h => h

/-- A call that is granted does not fail. -/
lemma fileCall_granted {call : FileCall} (h : call ≠ .rename) {E : String → World → Prop} :
    Triple (fun _ => True) (fileCall hostile call) (fun _ _ => True) E := by
  refine Triple.bind (Q := fun e _ => e = none) (fun w _ => if_neg h) fun e => ?_
  cases e with
  | none => exact Triple.ret fun _ _ => trivial
  | some e => exact fun _ he => by cases he

lemma setContent_present {ε : Type} {P : World → Prop} {b : Bytes} {E : ε → World → Prop} :
    Triple P (setContent p b) (fun _ => Present p) E :=
  Triple.modify fun w _ => by simp [Present]

lemma openFile_present : Triple (fun _ => True) (openFile hostile p) (fun _ => Present p)
    fun _ => Present p := by
  refine Triple.bind (fileCall_granted (by decide)) fun _ => ?_
  refine Triple.bind (Q := fun _ _ => True) (fun _ _ => trivial) fun b => ?_
  exact Triple.bind setContent_present fun _ => Triple.ret fun _ h => h

lemma fetchOnce_present : Triple (fun _ => True) (fetchOnce host hostile id f p)
    (fun _ => Present p) fun _ => Present p :=
  Triple.bind (Triple.mapError openFile_present) fun b => fetchOpened_keeps present_kept trivial b

lemma downloadLoop_present (left : ℕ) (backoff : ℤ) :
    Triple (fun _ => True) (downloadLoop host hostile id f p left backoff) (fun _ => Present p)
      fun _ => Present p := by
  unfold downloadLoop
  refine Triple.bind (Triple.attempt (R := fun _ => Present p) fetchOnce_present) fun r => ?_
  rcases r with (⟨wait, e⟩ | e) | _
  · cases left with
    | zero => exact Keeps.fail _
    | succ left =>
      refine (present_kept.ask _).bind fun e => ?_
      cases e with
      | none => exact downloadLoop_keeps present_kept trivial left _
      | some e => exact .fail _
  · exact Keeps.fail _
  · exact Keeps.ret ()

/-- A download leaves a file at its destination, even when it fails. -/
lemma download_present : Triple (fun _ => True) (download host hostile id f p)
    (fun _ => Present p) fun _ => Present p := by
  refine Triple.bind (Triple.attempt (R := fun r w => r = .ok true → Present p w)
    ((hashMatches_spec anything_kept).conseq (fun _ h => h) (fun ok w h hr => ?_)
      fun _ _ _ hr => by cases hr)) fun r => ?_
  · obtain ⟨b, hb, -⟩ := h.2 (by simpa using hr)
    unfold Present
    rw [hb]
    rfl
  have hfetch : Triple (fun _ => True) (fetchAndCheck host hostile id f p) (fun _ => Present p)
      fun _ => Present p :=
    Triple.bind (downloadLoop_present _ _) fun _ =>
      Keeps.bind (hashMatches_keeps present_kept) fun ok =>
        .ite (.ret ()) ((present_kept.remove fun _ _ => trivial).bind fun _ => .fail _)
  rcases r with _ | _ | _
  · exact hfetch.mono_pre fun _ _ => trivial
  · exact hfetch.mono_pre fun _ _ => trivial
  · exact Triple.ret fun w hw => hw rfl

/-- Making room never fails. -/
lemma dropOldest_total {ans : Answers} : Triple (fun _ => True) (dropOldest host ans)
    (fun _ _ => True) fun _ _ => False := by
  refine Triple.bind (Triple.attempt (R := fun _ _ => True)
    (fun w _ => by split <;> trivial)) fun r => ?_
  rcases r with _ | _ | ⟨oldest, rest⟩
  · exact Triple.ret fun _ h => h
  · exact Triple.ret fun _ h => h
  · exact Triple.ite (fun _ _ _ => trivial) fun _ => Triple.ret fun _ h => h

def hostileTime : Stamp := hostile.clock 0

/-- The temporary file of an item stays when it cannot be renamed. -/
lemma enqueue_present (result : CommandResult)
    (hp : p = join host.queueDir (itemName hostileTime.val id ++ ".tmp")) :
    Triple (fun _ => True) (enqueue host hostile id result) (fun _ => Present p)
      fun _ => Present p := by
  subst hp
  refine Triple.bind (dropOldest_total.mono_error fun _ _ h => h.elim) fun _ => ?_
  refine Triple.bind (Q := fun createdAt _ => createdAt = hostileTime) (fun _ _ => rfl)
    fun createdAt => ?_
  by_cases htime : createdAt = hostileTime
  swap
  · exact fun _ h => absurd h htime
  subst htime
  refine Triple.bind (Triple.mapError ?_) fun _ => present_kept.rename trivial trivial
  refine Triple.mono_pre ?_ fun _ _ => trivial
  refine Triple.bind (fileCall_granted (by decide)) fun _ => ?_
  refine Triple.bind (Q := fun _ _ => True) (fun _ _ => trivial) fun kept => ?_
  exact Triple.bind setContent_present fun _ =>
    (present_kept.fileCall _).bind fun _ => present_kept.setContent trivial _

lemma report_present (result : CommandResult)
    (hp : p = join host.queueDir (itemName hostileTime.val id ++ ".tmp")) :
    Triple (fun _ => True) (report host hostile id result) (fun _ => Present p)
      fun _ => Present p := by
  refine Triple.bind (Q := fun e _ => e ≠ none) (fun _ _ h => by cases h) fun e => ?_
  cases e with
  | none => exact fun _ h => absurd rfl h
  | some e =>
    exact Triple.bind (Triple.attempt (R := fun _ => Present p)
      ((enqueue_present result hp).mono_pre fun _ _ => trivial)) fun _ => Triple.ret fun _ h => h

/-- The first file of a package is there once its download has been tried. -/
lemma executeFiles_present {action : DeployAction} {pkg : PackageDelivery} {plan : Plan}
    {files : List FileRef} (hplan : prepare host policy action pkg = .ok plan)
    (hfiles : plan.manifest.files = f :: files) (hp : p = packageDir host pkg.id ++ [f.name]) :
    Triple (fun _ => True) (executeFiles host hostile policy action pkg) (fun _ => Present p)
      fun _ => Present p := by
  have hm := prepare_wellFormed hplan
  have hstart : StartProof (Present p) := fun _ _ h => h
  unfold executeFiles
  rw [hplan]
  refine Triple.bind (Triple.lift (Q := fun plan' _ => plan' = plan)
    (fun plan' h _ _ => (Except.ok.inj h).symm) fun _ h => by cases h) fun plan' => ?_
  by_cases hsame : plan' = plan
  swap
  · exact fun _ h => absurd h hsame
  subst hsame
  have hfirst : Triple (fun _ => True) (downloadAll host hostile pkg.id (packageDir host pkg.id)
      plan'.manifest.files) (fun _ => Present p) fun _ => Present p := by
    rw [hfiles]
    refine Triple.bind (Triple.mapError ?_) fun _ => Keeps.forEach fun g _ =>
      (download_keeps present_kept trivial).mapError
    rw [(hm.named f (hfiles ▸ List.mem_cons_self)).join, ← hp]
    exact download_present
  refine Triple.mono_pre ?_ fun _ _ => trivial
  refine Triple.bind (Triple.mapError (fileCall_granted (by decide))) fun _ =>
    Triple.bind hfirst fun _ => ?_
  exact (approve_keeps _).bind fun note => (run_keeps present_kept hstart _ _ _).mapError.bind
    fun code => conclude_keeps present_kept (fun _ _ => trivial) _ _

/-- Handling a command in a hostile world: its execution, and then its report. -/
lemma handle_hostile {cmd : PackageCommand} {R : World → Prop}
    (hexecute : Triple (fun _ => True) (execute host hostile policy cmd.type cmd.package)
      (fun _ => R) fun _ => R)
    (hreport : ∀ result, Triple R (report host hostile cmd.id result) (fun _ => Present p)
      fun _ => Present p) :
    Triple (fun _ => True) (handle host hostile policy cmd) (fun _ => Present p)
      fun _ => Present p := by
  refine Triple.bind (Q := fun pending _ => pending = none) (fun _ _ => rfl) fun pending => ?_
  cases pending with
  | some kind => exact fun _ h => by cases h
  | none =>
    refine Triple.bind (Q := fun _ _ => True) (fun _ _ => trivial) fun _ => ?_
    refine Triple.bind (Triple.attempt (R := fun _ => R) hexecute) fun r => ?_
    cases r with
    | ok r => exact hreport _
    | error e => exact hreport _

lemma unpackFolder_some {cmd : PackageCommand} {dir : Path}
    (h : unpackFolder host policy cmd = some dir) : ∃ pkg plan, cmd.package = some pkg ∧
      policy.enabled = true ∧ pkg.kind = "files" ∧
      prepare host policy (actionOf cmd.type) pkg = .ok plan ∧ dir = packageDir host pkg.id := by
  unfold unpackFolder at h
  split at h
  · cases h
  rename_i pkg hpkg
  split at h
  · rename_i hgo
    split at h
    · rename_i plan hplan
      exact ⟨pkg, plan, hpkg, hgo.1, hgo.2, hplan, (Option.some.inj h).symm⟩
    · cases h
  · cases h

/-- A file of the package is left in its folder. -/
lemma unpacked_present {cmd : PackageCommand} {dir : Path}
    (h : unpackFolder host policy cmd = some dir) :
    ∃ c, Present (dir ++ [c]) (handle host hostile policy cmd ⟨[], [], 0⟩).2 := by
  obtain ⟨pkg, plan, hpkg, henabled, hkind, hplan, rfl⟩ := unpackFolder_some h
  obtain ⟨f, files, hfiles⟩ := List.exists_cons_of_ne_nil (prepare_wellFormed hplan).nonempty
  refine ⟨f.name, (handle_hostile (R := Present (packageDir host pkg.id ++ [f.name])) ?_
    fun result => ?_).final trivial⟩
  · unfold execute
    rw [hpkg]
    dsimp only
    rw [if_neg (by simp [henabled]), if_neg (by simp [hkind]), if_pos hkind]
    exact executeFiles_present hplan hfiles rfl
  · exact report_keeps present_kept ⟨fun _ _ => trivial, fun _ => trivial, fun _ => trivial⟩ result

/-- The temporary file of the queued result is left. -/
lemma queued_present {cmd : PackageCommand} :
    Present (join host.queueDir (itemName hostileTime.val cmd.id ++ ".tmp"))
      (handle host hostile policy cmd ⟨[], [], 0⟩).2 := by
  refine (handle_hostile (R := fun _ => True) ?_ fun result => report_present result rfl).final trivial
  exact execute_keeps anything_kept (fun _ _ h => h) fun _ _ _ _ => trivial

lemma inside_of_present {x : String} {w : World} (h : Store.SameOff (Inside host x) [] w.files)
    (hp : Present p w) : Inside host x p := by
  by_contra hnot
  unfold Present at hp
  rw [h p hnot] at hp
  cases hp

end Escapes

/-- **The commands that are confined** in every world are those whose identifiers stay inside. -/
theorem confined_iff (host : Host) (policy : Policy) (cmd : PackageCommand) :
    (∀ ans w, Confined host w.files (handle host ans policy cmd w).2.files) ↔
      Stays host policy cmd := by
  refine ⟨fun h => ?_, fun h ans w => confined_of_stays h w⟩
  obtain ⟨x, hx, hsame⟩ := h hostile ⟨[], [], 0⟩
  refine ⟨x, hx, ?_, fun dir hdir => ?_⟩
  · have hin := inside_of_present hsame queued_present
    rw [itemName_tmp] at hin
    exact inside_item cmd.id (opens_stamp hostileTime) opens_empty closes_tmp closes_final hin
  · obtain ⟨c, hc⟩ := unpacked_present hdir
    exact (inside_append dir c).1 (inside_of_present hsame hc)

/-! ### A package that leaves -/

def strayManifest : Manifest where
  format := "tiai-package-1"
  packageID := "..\\..\\evil"
  name := "Viewer"
  version := "3.1"
  files := [⟨"setup.exe", hexEncode emptyHash, 10⟩]
  install := some ⟨"setup.exe", []⟩
  uninstall := none
  successCodes := [0]

def strayCommand : PackageCommand where
  id := "1"
  type := "package_install"
  package := some { signedDelivery with id := "..\\..\\evil", signature := "" }

/-- **An unsigned package, refused**: the server has none of its files, and one is left outside. -/
theorem escapes :
    ¬Confined (samplePoste strayManifest) [] (handle (samplePoste strayManifest)
      { offline with
        reply := fun _ => .ok ⟨404, none, [], "", none⟩
        post := fun _ _ => none } ⟨[], ["Editeur SA"], false, []⟩ strayCommand ⟨[], [], 0⟩).2.files := by
  rintro ⟨x, -, h⟩
  have hstray := h ["C:", "ProgramData", "evil", "setup.exe"] (by
    rintro (⟨c, rest, h⟩ | ⟨c, rest, h⟩)
    · simp [samplePoste] at h
    · simp [samplePoste] at h)
  revert hstray
  decide +kernel

end Tiai.Deploy
