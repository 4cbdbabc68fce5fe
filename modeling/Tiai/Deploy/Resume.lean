import Tiai.Deploy.Download

/-!
# Resuming a download

`internal/deploy/download.go` against any `Fetcher`: each call of it gets the file from an offset on, leaves there
whatever it likes and returns whatever it likes.  The calls of `os` succeed here, as `Deploy/Download.lean` has them
fail.

* `Network` — what the fetches and the waits do;
* `download` — the code, with the fetches it made;
* `Follows` — each fetch is given what the one before left, or nothing if that is too long;
* `downloadLoop_spec` — the loop, by induction on the attempts left;
* `download_resumes` — the number of fetches, what success promises, what is removed and what is kept.
-/

namespace Tiai.Deploy.Resume

/-! ### The code -/

/-- One behaviour of everything but the disk; the first number is that of the attempt. -/
structure Network where
  /-- `FetchPackageFile`, of an offset and the file: what it leaves there, and its error. -/
  fetch : ℕ → ℕ → Bytes → Bytes × Option FetchError
  sleep : ℕ → ℤ → Option String

/-- A fetch that was made. -/
structure Fetched where
  offset : ℕ
  given : Bytes
  left : Bytes
  error : Option FetchError

/-- Of the file at the destination: its size and its hash are the manifest's. -/
def hashMatches (sha256 : Bytes → Bytes) (f : FileRef) (file : Option Bytes) : Bool :=
  file.any fun b => (b.length : ℤ) = f.size && hexEncode (sha256 b) = f.sha256

/-- What a fetch resumes from: a file longer than it should ever be starts over. -/
def resumed (f : FileRef) (b : Bytes) : Bytes := if f.size < b.length then [] else b

def incomplete (f : FileRef) (b : Bytes) : FetchError :=
  .later 0 ("transfert incomplet (" ++ toString b.length ++ "/" ++ toString f.size ++ " octets)")

/-- `fetchOnce`: what is in the file then, its error, and the fetch it made, if it did. -/
def fetchOnce (f : FileRef) (fetch : ℕ → Bytes → Bytes × Option FetchError) (file : Option Bytes) :
    Bytes × Option FetchError × Option Fetched :=
  let given := resumed f (file.getD [])
  if (given.length : ℤ) = f.size then (given, none, none)
  else
    let (left, failed) := fetch given.length given
    let error := failed.or (if (left.length : ℤ) ≠ f.size then some (incomplete f left) else none)
    (left, error, some ⟨given.length, given, left, error⟩)

/-- What the loop of `Download` leaves in the file, the error it returns, and the fetches it made. -/
structure Ended where
  error : Option String
  file : Bytes
  fetched : List Fetched

/-- The loop of `Download`, with `left` attempts after this one; `backoff` is in seconds. -/
def downloadLoop (net : Network) (f : FileRef) (left attempt : ℕ) (backoff : ℤ) (file : Option Bytes) : Ended :=
  match fetchOnce f (net.fetch attempt) file with
  | (kept, none, fetched) => ⟨none, kept, fetched.toList⟩
  | (kept, some (.fatal e), fetched) => ⟨some e, kept, fetched.toList⟩
  | (kept, some (.later wait e), fetched) =>
    match left with
    | 0 => ⟨some e, kept, fetched.toList⟩
    | left + 1 =>
      match net.sleep attempt (if wait ≤ 0 then backoff else wait) with
      | some e => ⟨some e, kept, fetched.toList⟩
      | none =>
        let rest := downloadLoop net f left (attempt + 1)
          (if wait ≤ 0 then min (backoff * 2) 300 else backoff) (some kept)
        { rest with fetched := fetched.toList ++ rest.fetched }

structure Downloaded where
  error : Option String
  file : Option Bytes
  fetched : List Fetched

def rejected : String := "empreinte SHA-256 différente de celle du manifeste : fichier rejeté"

/-- `Download`. -/
def download (sha256 : Bytes → Bytes) (net : Network) (f : FileRef) (file : Option Bytes) : Downloaded :=
  if hashMatches sha256 f file then ⟨none, file, []⟩
  else
    let r := downloadLoop net f (downloadAttempts - 1) 1 5 file
    match r.error with
    | some e => ⟨some e, some r.file, r.fetched⟩
    | none =>
      if hashMatches sha256 f (some r.file) then ⟨none, some r.file, r.fetched⟩
      else ⟨some rejected, none, r.fetched⟩

/-! ### What each fetch is given -/

/-- From the file `b` on, each fetch is given what the one before left. -/
def Follows (f : FileRef) : Bytes → List Fetched → Prop
  | _, [] => True
  | b, c :: cs => c.given = resumed f b ∧ c.offset = c.given.length ∧ Follows f c.left cs

/-- A fetch that merely fails: it returns an error, and has at most added to the file, not too much. -/
def Fetched.MerelyFailed (f : FileRef) (c : Fetched) : Prop :=
  c.error ≠ none ∧ c.given <+: c.left ∧ (c.left.length : ℤ) ≤ f.size

/-- A file as long as the manifest says, with another hash. -/
def WrongContent (sha256 : Bytes → Bytes) (f : FileRef) (b : Bytes) : Prop :=
  (b.length : ℤ) = f.size ∧ hexEncode (sha256 b) ≠ f.sha256

/-- What the fetches leave of the file `b`. -/
def leftBy (b : Bytes) (fetched : List Fetched) : Bytes := (fetched.getLast?.map Fetched.left).getD b

section

variable {f : FileRef} {net : Network} {left attempt : ℕ} {backoff : ℤ} {file : Option Bytes} {b : Bytes}
  {c : Fetched} {fetched : List Fetched} {sha256 : Bytes → Bytes}

lemma leftBy_cons : leftBy b (c :: fetched) = leftBy c.left fetched := by
  unfold leftBy
  rw [List.getLast?_cons]
  cases fetched.getLast? with
  | none => rfl
  | some last => rfl

lemma resumed_of_le (h : (b.length : ℤ) ≤ f.size) : resumed f b = b := by
  unfold resumed
  rw [if_neg (by omega)]

/-- Fetches that merely fail keep what there was. -/
lemma Follows.prefix_leftBy (h : Follows f b fetched) (hb : (b.length : ℤ) ≤ f.size)
    (hadds : ∀ c ∈ fetched, c.MerelyFailed f) :
    b <+: leftBy b fetched ∧ ((leftBy b fetched).length : ℤ) ≤ f.size := by
  induction fetched generalizing b with
  | nil => exact ⟨List.prefix_rfl, hb⟩
  | cons c fetched ih =>
    obtain ⟨hgiven, -, hrest⟩ := h
    obtain ⟨-, hadd, hsize⟩ := hadds c List.mem_cons_self
    rw [hgiven, resumed_of_le hb] at hadd
    obtain ⟨hkept, hlength⟩ := ih hrest hsize fun c hc => hadds c (List.mem_cons_of_mem _ hc)
    rw [leftBy_cons]
    exact ⟨hadd.trans hkept, hlength⟩

/-! ### The loop -/

/-- What one attempt does: nothing when the file is complete, else one fetch from what is there. -/
lemma fetchOnce_cases (fetch : ℕ → Bytes → Bytes × Option FetchError) (file : Option Bytes) :
    (((resumed f (file.getD [])).length : ℤ) = f.size ∧
      fetchOnce f fetch file = (resumed f (file.getD []), none, none)) ∨
    ∃ c : Fetched, c.given = resumed f (file.getD []) ∧ c.offset = c.given.length ∧
      (c.error = none → (c.left.length : ℤ) = f.size) ∧ fetchOnce f fetch file = (c.left, c.error, some c) := by
  by_cases hcomplete : ((resumed f (file.getD [])).length : ℤ) = f.size
  · exact Or.inl ⟨hcomplete, if_pos hcomplete⟩
  · right
    unfold fetchOnce
    dsimp only
    rw [if_neg hcomplete]
    rcases fetch (resumed f (file.getD [])).length (resumed f (file.getD [])) with ⟨left, failed⟩
    refine ⟨⟨_, _, left, failed.or (if (left.length : ℤ) ≠ f.size then some (incomplete f left) else none)⟩,
      rfl, rfl, fun hnone => ?_, rfl⟩
    by_contra hsize
    dsimp only at hnone hsize
    rw [if_pos hsize] at hnone
    exact absurd (Option.or_eq_none_iff.1 hnone).2 (Option.some_ne_none _)

/-- What the loop has done when it ends, started on the file `b`. -/
structure Spec (f : FileRef) (left : ℕ) (b : Bytes) (r : Ended) : Prop where
  count : r.fetched.length ≤ left + 1
  follows : Follows f b r.fetched
  complete : r.error = none → (r.file.length : ℤ) = f.size
  file : r.file = leftBy b r.fetched ∨ r.file = resumed f (leftBy b r.fetched)
  failed : r.error ≠ none → ∃ last, r.fetched.getLast? = some last ∧ last.error ≠ none ∧ r.file = last.left

lemma Spec.prefix_file {r : Ended} (h : Spec f left (file.getD []) r) (hb : file = some b)
    (hsize : (b.length : ℤ) ≤ f.size) (hadds : ∀ c ∈ r.fetched, c.MerelyFailed f) : b <+: r.file := by
  subst hb
  obtain ⟨hkept, hlength⟩ := h.follows.prefix_leftBy hsize hadds
  rcases h.file with hfile | hfile
  · rw [hfile]
    exact hkept
  · rw [hfile, resumed_of_le hlength]
    exact hkept

lemma Spec.done (h : ((resumed f b).length : ℤ) = f.size) : Spec f left b ⟨none, resumed f b, []⟩ :=
  ⟨Nat.zero_le _, trivial, fun _ => h, Or.inr rfl, fun h => absurd rfl h⟩

/-- A loop that ends on its first fetch. -/
lemma Spec.first (hgiven : c.given = resumed f b) (hoffset : c.offset = c.given.length) (error : Option String)
    (hcomplete : error = none → (c.left.length : ℤ) = f.size) (hfailed : error ≠ none → c.error ≠ none) :
    Spec f left b ⟨error, c.left, [c]⟩ :=
  ⟨Nat.succ_le_succ (Nat.zero_le _), ⟨hgiven, hoffset, trivial⟩, hcomplete, Or.inl rfl,
    fun h => ⟨c, rfl, hfailed h, rfl⟩⟩

/-- A loop that goes on after its first fetch, with one attempt less. -/
lemma Spec.next {rest : Ended} (hgiven : c.given = resumed f b) (hoffset : c.offset = c.given.length)
    (hrest : Spec f left c.left rest) : Spec f (left + 1) b { rest with fetched := c :: rest.fetched } where
  count := Nat.succ_le_succ hrest.count
  follows := ⟨hgiven, hoffset, hrest.follows⟩
  complete := hrest.complete
  file := by
    rw [leftBy_cons]
    exact hrest.file
  failed h := by
    obtain ⟨last, hlast, herror, hfile⟩ := hrest.failed h
    refine ⟨last, ?_, herror, hfile⟩
    rw [List.getLast?_cons, hlast]
    rfl

theorem downloadLoop_spec (left attempt : ℕ) (backoff : ℤ) (file : Option Bytes) :
    Spec f left (file.getD []) (downloadLoop net f left attempt backoff file) := by
  induction left generalizing attempt backoff file with
  | zero =>
    unfold downloadLoop
    rcases fetchOnce_cases (net.fetch attempt) file with ⟨hcomplete, honce⟩ | ⟨c, hgiven, hoffset, hsize, honce⟩
    · rw [honce]
      exact Spec.done hcomplete
    · rw [honce]
      rcases herror : c.error with _ | ⟨wait, e⟩ | e
      · exact Spec.first hgiven hoffset none (fun _ => hsize herror) fun h => absurd rfl h
      · exact Spec.first hgiven hoffset (some e) (fun h => by cases h) fun _ => by simp [herror]
      · exact Spec.first hgiven hoffset (some e) (fun h => by cases h) fun _ => by simp [herror]
  | succ left ih =>
    unfold downloadLoop
    rcases fetchOnce_cases (net.fetch attempt) file with ⟨hcomplete, honce⟩ | ⟨c, hgiven, hoffset, hsize, honce⟩
    · rw [honce]
      exact Spec.done hcomplete
    · rw [honce]
      rcases herror : c.error with _ | ⟨wait, e⟩ | e
      · exact Spec.first hgiven hoffset none (fun _ => hsize herror) fun h => absurd rfl h
      · dsimp only
        cases net.sleep attempt (if wait ≤ 0 then backoff else wait) with
        | some e => exact Spec.first hgiven hoffset (some e) (fun h => by cases h) fun _ => by simp [herror]
        | none => exact Spec.next hgiven hoffset (ih (attempt + 1) _ (some c.left))
      · exact Spec.first hgiven hoffset (some e) (fun h => by cases h) fun _ => by simp [herror]

/-- A file that is complete when the loop starts ends it without a fetch. -/
lemma downloadLoop_complete (h : (b.length : ℤ) = f.size) :
    downloadLoop net f left attempt backoff (some b) = ⟨none, b, []⟩ := by
  have hresumed : resumed f b = b := resumed_of_le (by omega)
  have honce : fetchOnce f (net.fetch attempt) (some b) = (b, none, none) := by
    unfold fetchOnce
    rw [Option.getD_some, hresumed]
    exact if_pos h
  unfold downloadLoop
  rw [honce]
  rfl

lemma hashMatches_iff : hashMatches sha256 f file = true ↔
    ∃ b, file = some b ∧ (b.length : ℤ) = f.size ∧ hexEncode (sha256 b) = f.sha256 := by
  unfold hashMatches
  cases file with
  | none => simp
  | some b => simp

/-! ### The download -/

/-- Every end of a download: the file was there, a fetch failed for good, or the complete file passed the check or
did not. -/
theorem download_cases (sha256 : Bytes → Bytes) (net : Network) (f : FileRef) (file : Option Bytes) :
    (hashMatches sha256 f file = true ∧ download sha256 net f file = ⟨none, file, []⟩) ∨
    ∃ r, Spec f (downloadAttempts - 1) (file.getD []) r ∧
      r = downloadLoop net f (downloadAttempts - 1) 1 5 file ∧ hashMatches sha256 f file = false ∧
      ((∃ e, r.error = some e ∧ download sha256 net f file = ⟨some e, some r.file, r.fetched⟩) ∨
        (r.error = none ∧ hashMatches sha256 f (some r.file) = true ∧
          download sha256 net f file = ⟨none, some r.file, r.fetched⟩) ∨
        (r.error = none ∧ hashMatches sha256 f (some r.file) = false ∧
          download sha256 net f file = ⟨some rejected, none, r.fetched⟩)) := by
  unfold download
  cases hfile : hashMatches sha256 f file with
  | true => exact Or.inl ⟨rfl, if_pos rfl⟩
  | false =>
    refine Or.inr ⟨_, downloadLoop_spec _ _ _ _, rfl, rfl, ?_⟩
    rw [if_neg Bool.false_ne_true]
    dsimp only
    cases herror : (downloadLoop net f (downloadAttempts - 1) 1 5 file).error with
    | some e => exact Or.inl ⟨e, rfl, rfl⟩
    | none =>
      cases hleft : hashMatches sha256 f (some (downloadLoop net f (downloadAttempts - 1) 1 5 file).file) with
      | true => exact Or.inr (Or.inl ⟨rfl, rfl, if_pos rfl⟩)
      | false => exact Or.inr (Or.inr ⟨rfl, rfl, if_neg Bool.false_ne_true⟩)

end

/-- **A download resumes, ends and checks.**  Whatever the fetches and the waits do, and whatever the file was:
there are 20 fetches at most; success means that the file has the manifest's size and hash; a complete file with
another hash is removed, without a fetch if it was there at first, and is left only by a last fetch that failed; each
fetch is given what the one before left, or nothing where that is longer than the file should be; a download that
fails leaves what its last fetch left, unless it removes the file; and what was there at first, if it was not too
long, is still there after fetches that merely fail. -/
theorem download_resumes (sha256 : Bytes → Bytes) (net : Network) (f : FileRef) (file : Option Bytes) :
    (download sha256 net f file).fetched.length ≤ downloadAttempts ∧
    ((download sha256 net f file).error = none → ∃ b, (download sha256 net f file).file = some b ∧
      (b.length : ℤ) = f.size ∧ hexEncode (sha256 b) = f.sha256) ∧
    (∀ b, file = some b → WrongContent sha256 f b → download sha256 net f file = ⟨some rejected, none, []⟩) ∧
    (∀ b, (download sha256 net f file).file = some b → WrongContent sha256 f b →
      ∃ last, (download sha256 net f file).fetched.getLast? = some last ∧ last.error ≠ none ∧ last.left = b) ∧
    Follows f (file.getD []) (download sha256 net f file).fetched ∧
    (∀ e, (download sha256 net f file).error = some e →
      (e = rejected ∧ (download sha256 net f file).file = none) ∨
      ∃ last, (download sha256 net f file).fetched.getLast? = some last ∧ last.error ≠ none ∧
        (download sha256 net f file).file = some last.left) ∧
    ∀ b, file = some b → (b.length : ℤ) ≤ f.size →
      (∀ c ∈ (download sha256 net f file).fetched, c.MerelyFailed f) →
      ∀ b', (download sha256 net f file).file = some b' → b <+: b' := by
  rcases download_cases sha256 net f file with ⟨hfile, hd⟩ | ⟨r, hspec, hr, hfile, ⟨e, herror, hd⟩ | ⟨herror, hleft, hd⟩ |
    ⟨herror, hleft, hd⟩⟩
  · -- it was there
    have hheld := hashMatches_iff.1 hfile
    rw [hd]
    refine ⟨Nat.zero_le _, fun _ => hheld, fun b hb hwrong => ?_, fun b hb hwrong => ?_, trivial,
      fun e he => (by cases he), fun b hb _ _ b' hb' => ?_⟩
    · obtain ⟨b', hb', -, hhash⟩ := hheld
      rw [hb] at hb'
      cases hb'
      exact absurd hhash hwrong.2
    · obtain ⟨b', hb', -, hhash⟩ := hheld
      cases hb'.symm.trans hb
      exact absurd hhash hwrong.2
    · cases hb.symm.trans hb'
      exact List.prefix_rfl
  · -- a fetch failed for good
    obtain ⟨last, hlast, hfailed, hfinal⟩ := hspec.failed (by rw [herror]; exact Option.some_ne_none e)
    rw [hd]
    refine ⟨hspec.count, fun h => (Option.some_ne_none e h).elim, fun b hb hwrong => ?_, fun b hb _ => ?_,
      hspec.follows, fun _ _ => Or.inr ⟨last, hlast, hfailed, by rw [hfinal]⟩, fun b hb hsize hadds b' hb' => ?_⟩
    · rw [hr, hb, downloadLoop_complete hwrong.1] at herror
      cases herror
    · cases hb
      exact ⟨last, hlast, hfailed, hfinal.symm⟩
    · cases hb'
      exact hspec.prefix_file hb hsize hadds
  · -- the complete file passed the check
    rw [hd]
    refine ⟨hspec.count, fun _ => hashMatches_iff.1 hleft, fun b hb hwrong => ?_, fun b hb hwrong => ?_,
      hspec.follows, fun e he => (by cases he), fun b hb hsize hadds b' hb' => ?_⟩
    · obtain ⟨b', hb', -, hhash⟩ := hashMatches_iff.1 hleft
      rw [hr, hb, downloadLoop_complete hwrong.1] at hb'
      cases hb'
      exact absurd hhash hwrong.2
    · obtain ⟨b', hb', -, hhash⟩ := hashMatches_iff.1 hleft
      cases hb
      cases hb'
      exact absurd hhash hwrong.2
    · cases hb'
      exact hspec.prefix_file hb hsize hadds
  · -- it did not
    rw [hd]
    refine ⟨hspec.count, fun h => (Option.some_ne_none _ h).elim, fun b hb hwrong => ?_, fun b hb _ => (by cases hb),
      hspec.follows, fun e he => Or.inl ⟨(Option.some.inj he).symm, rfl⟩, fun b hb hsize hadds b' hb' => (by cases hb')⟩
    rw [hr, hb, downloadLoop_complete hwrong.1]

/-- A server that sends three bytes of a file of two, and then refuses. -/
def overrun : Network where
  fetch attempt _ given := if attempt = 1 then ([1, 2, 3], none) else (given, some (.fatal "GET: connexion refusée"))
  sleep _ _ := none

/-- What is longer than the file should be is dropped before the next fetch, which merely fails. -/
theorem overrun_dropped :
    let d := download (fun _ => List.replicate 32 0) overrun ⟨"setup.msi", "00", 2⟩ none
    d.fetched.map (fun c => (c.offset, c.given, c.left)) = [(0, [], [1, 2, 3]), (0, [], [])] ∧
      d.error = some "GET: connexion refusée" ∧ d.file = some [] := by
  decide

end Tiai.Deploy.Resume
