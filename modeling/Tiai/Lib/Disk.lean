import Mathlib

/-!
# Replacing a file on a disk that may lose its power

A name is an entry of the directory, and what a file holds is reached through its entry.  What was written and not
flushed is lost with the power, and so may be the last changes of the directory, each of which is made whole or not
at all.

* `Volume` — the directory, the earlier ones that a power cut may bring back, and the files;
* `Volume.replace` — a file is written beside the old one, flushed, and renamed over it: any call may fail;
* `Volume.Sound` — no directory that may come back names a file that is not whole;
* `Slot`, `Slot.Step` — one value, and the values it may fall back to: what the two names are for;
* `replace_step`, `remove_step`, `powerCut_step`, `settle_step` — a sound volume is such a slot.
-/

namespace Tiai.Lib.Disk

variable {ν β : Type}

/-! ### Volumes -/

structure Volume (ν β : Type) where
  directory : ν → Option ℕ
  /-- The directories since the last one that is settled, newest first. -/
  unsettled : List (ν → Option ℕ)
  content : ℕ → β
  flushed : ℕ → Bool
  /-- No file has this number, or one above. -/
  fresh : ℕ

namespace Volume

variable [DecidableEq ν] (v : Volume ν β) (name : ν) (i : ℕ)

/-- What the file of that name holds. -/
def read : Option β := (v.directory name).map v.content

/-- The directories that a power cut may leave. -/
def directories : List (ν → Option ℕ) := v.directory :: v.unsettled

def setDirectory (d : ν → Option ℕ) : Volume ν β := { v with directory := d, unsettled := v.directories }

def write (b : β) : Volume ν β :=
  { v with content := Function.update v.content i b, flushed := Function.update v.flushed i false }

def flush : Volume ν β := { v with flushed := Function.update v.flushed i true }

/-- The file of that name made empty, or a new one. -/
def openTruncated (empty : β) : Volume ν β × ℕ :=
  match v.directory name with
  | some i => (v.write i empty, i)
  | none =>
    (({ v with fresh := v.fresh + 1 }.setDirectory (Function.update v.directory name (some v.fresh))).write v.fresh empty,
      v.fresh)

def remove : Volume ν β := v.setDirectory (Function.update v.directory name none)

/-- The file of the first name takes the second, and the one that had it loses it. -/
def rename (old new : ν) : Volume ν β :=
  v.setDirectory (Function.update (Function.update v.directory new (v.directory old)) old none)

/-- The directory as it is will survive. -/
def settle : Volume ν β := { v with unsettled := [] }

/-- The power is cut: one of the directories is back, and what was not flushed is `scrambled`. -/
def powerCut (k : ℕ) (scrambled : ℕ → β) : Volume ν β where
  directory := v.directories.getD k v.directory
  unsettled := []
  content i := if v.flushed i then v.content i else scrambled i
  flushed _ := true
  fresh := v.fresh

end Volume

/-! ### Replacing a file -/

/-- What becomes of a system call. -/
inductive Fate
  | succeeds
  | fails
  /-- The power is cut before it is done. -/
  | cut
  deriving DecidableEq, Repr

inductive Outcome
  | done
  | failed
  | cut
  deriving DecidableEq, Repr

/-- The calls, in their order; the temporary file is removed after a failure. -/
inductive Call
  | makeDirectory
  | openFile
  | writeFile
  | flushFile
  | closeFile
  | renameFile
  | removeFile
  deriving DecidableEq, Repr

/-- What becomes of the calls, and what a write that is not done leaves. -/
structure Faults (β : Type) where
  fate : Call → Fate
  partly : β

section Replace

variable [DecidableEq ν] (v : Volume ν β) (temporary path : ν) (empty b : β) (faults : Faults β)

/-- Open, write, flush and close. -/
def Volume.writeFlushed : Volume ν β × Outcome :=
  match faults.fate .openFile with
  | .fails => (v, .failed)
  | .cut => (v, .cut)
  | .succeeds =>
    let (v, i) := v.openTruncated temporary empty
    match faults.fate .writeFile with
    | .fails => (v.write i faults.partly, .failed)
    | .cut => (v.write i faults.partly, .cut)
    | .succeeds =>
      let v := v.write i b
      match faults.fate .flushFile with
      | .fails => (v, .failed)
      | .cut => (v, .cut)
      | .succeeds =>
        let v := v.flush i
        match faults.fate .closeFile with
        | .fails => (v, .failed)
        | .cut => (v, .cut)
        | .succeeds => (v, .done)

/-- The temporary file is removed, where it can be. -/
def Volume.discard : Volume ν β × Outcome :=
  match faults.fate .removeFile with
  | .fails => (v, .failed)
  | .cut => (v, .cut)
  | .succeeds => (v.remove temporary, .failed)

/-- Written beside, then renamed over. -/
def Volume.replace : Volume ν β × Outcome :=
  match faults.fate .makeDirectory with
  | .fails => (v, .failed)
  | .cut => (v, .cut)
  | .succeeds =>
    match v.writeFlushed temporary empty b faults with
    | (v, .cut) => (v, .cut)
    | (v, .failed) => v.discard temporary faults
    | (v, .done) =>
      match faults.fate .renameFile with
      | .fails => v.discard temporary faults
      | .cut => (v, .cut)
      | .succeeds => (v.rename temporary path, .done)

end Replace

/-! ### One slot -/

/-- A value, or none, and those that a power cut may leave. -/
structure Slot (β : Type) where
  current : Option β
  possible : Set (Option β)

/-- What is done to a slot. -/
inductive Op (β : Type)
  | put (b : β)
  | drop
  | keep
  | settle
  | powerCut

inductive Slot.Step : Slot β → Op β → Slot β → Prop
  | put (s : Slot β) (b : β) : Step s (.put b) ⟨some b, insert (some b) s.possible⟩
  | drop (s : Slot β) : Step s .drop ⟨none, insert none s.possible⟩
  | keep (s : Slot β) : Step s .keep s
  | settle (s : Slot β) : Step s .settle ⟨s.current, {s.current}⟩
  | powerCut (s : Slot β) {x : Option β} (h : x ∈ s.possible) : Step s .powerCut ⟨x, {x}⟩

/-- A run of a slot. -/
inductive Slot.Steps : Slot β → List (Op β) → Slot β → Prop
  | nil (s : Slot β) : Steps s [] s
  | cons {s t u : Slot β} {op : Op β} {ops : List (Op β)} (h : Step s op t) (hs : Steps t ops u) :
    Steps s (op :: ops) u

/-- What a slot holds was put there. -/
lemma Slot.Steps.origin {s t : Slot β} {ops : List (Op β)} (h : Slot.Steps s ops t) (hs : s.current ∈ s.possible) :
    t.current ∈ t.possible ∧ ∀ b, some b ∈ t.possible → some b ∈ s.possible ∨ .put b ∈ ops := by
  induction h with
  | nil s => exact ⟨hs, fun b hb => .inl hb⟩
  | @cons s t u op ops hstep _ ih =>
    have hput : t.current ∈ t.possible ∧ ∀ b, some b ∈ t.possible → some b ∈ s.possible ∨ op = .put b := by
      cases hstep with
      | put b =>
        refine ⟨Set.mem_insert _ _, fun c hc => ?_⟩
        rcases hc with hc | hc
        · cases hc
          exact .inr rfl
        · exact .inl hc
      | drop =>
        refine ⟨Set.mem_insert _ _, fun c hc => ?_⟩
        rcases hc with hc | hc
        · cases hc
        · exact .inl hc
      | keep => exact ⟨hs, fun c hc => .inl hc⟩
      | settle =>
        refine ⟨Set.mem_singleton _, fun c hc => ?_⟩
        rw [Set.mem_singleton_iff.1 hc]
        exact .inl hs
      | powerCut hx =>
        refine ⟨Set.mem_singleton _, fun c hc => ?_⟩
        rw [Set.mem_singleton_iff.1 hc]
        exact .inl hx
    obtain ⟨hmem, horigin⟩ := ih hput.1
    refine ⟨hmem, fun b hb => ?_⟩
    rcases horigin b hb with hb | hb
    · rcases hput.2 b hb with hb | rfl
      · exact .inl hb
      · exact .inr List.mem_cons_self
    · exact .inr (List.mem_cons_of_mem _ hb)

/-- The slot of what the values are read as. -/
def Slot.bind {γ : Type} (s : Slot β) (f : β → Option γ) : Slot γ where
  current := s.current.bind f
  possible := (fun x => x.bind f) '' s.possible

/-- What is done, seen through the reading: a value that is put can be read. -/
inductive Op.Reads {γ : Type} (f : β → Option γ) : Op β → Op γ → Prop
  | put {b : β} {c : γ} (h : f b = some c) : Reads f (.put b) (.put c)
  | drop : Reads f .drop .drop
  | keep : Reads f .keep .keep
  | settle : Reads f .settle .settle
  | powerCut : Reads f .powerCut .powerCut

lemma Slot.Step.bind {γ : Type} {s t : Slot β} {op : Op β} (h : Slot.Step s op t) {f : β → Option γ} {op' : Op γ}
    (hop : Op.Reads f op op') : Slot.Step (s.bind f) op' (t.bind f) := by
  cases h with
  | put b =>
    cases hop with | @put _ c hc =>
    have ht : (⟨some b, insert (some b) s.possible⟩ : Slot β).bind f = ⟨some c, insert (some c) (s.bind f).possible⟩ := by
      refine Slot.mk.injEq .. |>.mpr ⟨hc, ?_⟩
      rw [Set.image_insert_eq]
      exact congrArg (insert · _) hc
    rw [ht]
    exact .put _ c
  | drop =>
    cases hop
    have ht : (⟨none, insert none s.possible⟩ : Slot β).bind f = ⟨none, insert none (s.bind f).possible⟩ :=
      Slot.mk.injEq .. |>.mpr ⟨rfl, Set.image_insert_eq ..⟩
    rw [ht]
    exact .drop _
  | keep =>
    cases hop
    exact .keep _
  | settle =>
    cases hop
    have ht : (⟨s.current, {s.current}⟩ : Slot β).bind f = ⟨(s.bind f).current, {(s.bind f).current}⟩ :=
      Slot.mk.injEq .. |>.mpr ⟨rfl, Set.image_singleton ..⟩
    rw [ht]
    exact .settle _
  | @powerCut x hx =>
    cases hop
    have ht : (⟨x, {x}⟩ : Slot β).bind f = ⟨x.bind f, {x.bind f}⟩ :=
      Slot.mk.injEq .. |>.mpr ⟨rfl, Set.image_singleton ..⟩
    rw [ht]
    exact .powerCut _ ⟨x, hx, rfl⟩

/-! ### A volume that is a slot -/

/-- Every directory that may come back names, under `path`, a file that is whole; and the temporary file is none of
these. -/
structure Volume.Sound (v : Volume ν β) (temporary path : ν) : Prop where
  apart : temporary ≠ path
  whole : ∀ d ∈ v.directories, ∀ i, d path = some i → v.flushed i = true
  known : ∀ d ∈ v.directories, ∀ name i, d name = some i → i < v.fresh
  distinct : ∀ d ∈ v.directories, ∀ i, d temporary = some i → d path ≠ some i
  beside : ∀ d ∈ v.directories, ∀ i, v.directory temporary = some i → d path ≠ some i

/-- What the volume holds under `path`, and what it may hold after a power cut. -/
def Volume.slot (v : Volume ν β) (path : ν) : Slot β where
  current := v.read path
  possible := {x | ∃ d ∈ v.directories, x = (d path).map v.content}

section Steps

variable {v : Volume ν β} {temporary path : ν} {i : ℕ} {b : β}

lemma current_mem_possible : (v.slot path).current ∈ (v.slot path).possible :=
  ⟨v.directory, List.mem_cons_self, rfl⟩

/-- Writing to a file that no directory has under `path` changes nothing there. -/
lemma Volume.Sound.write (h : v.Sound temporary path) (hi : ∀ d ∈ v.directories, d path ≠ some i) :
    (v.write i b).Sound temporary path ∧ (v.write i b).slot path = v.slot path := by
  have hread (d : ν → Option ℕ) (hd : d ∈ v.directories) :
      (d path).map (Function.update v.content i b) = (d path).map v.content := by
    cases hj : d path with
    | none => rfl
    | some j =>
      have hne : j ≠ i := fun heq => hi d hd (heq ▸ hj)
      simp [Function.update_of_ne hne]
  refine ⟨⟨h.apart, fun d hd j hj => ?_, h.known, h.distinct, h.beside⟩, ?_⟩
  · have hne : j ≠ i := fun heq => hi d hd (heq ▸ hj)
    change Function.update v.flushed i false j = true
    rw [Function.update_of_ne hne]
    exact h.whole d hd j hj
  · refine Slot.mk.injEq .. |>.mpr ⟨hread _ List.mem_cons_self, Set.ext fun x => ?_⟩
    constructor
    · rintro ⟨d, hd, rfl⟩
      exact ⟨d, hd, hread d hd⟩
    · rintro ⟨d, hd, rfl⟩
      exact ⟨d, hd, (hread d hd).symm⟩

lemma Volume.Sound.flush (h : v.Sound temporary path) :
    (v.flush i).Sound temporary path ∧ (v.flush i).slot path = v.slot path := by
  refine ⟨⟨h.apart, fun d hd j hj => ?_, h.known, h.distinct, h.beside⟩, rfl⟩
  change Function.update v.flushed i true j = true
  by_cases hji : j = i
  · rw [hji, Function.update_self]
  · rw [Function.update_of_ne hji]
    exact h.whole d hd j hj

/-- A new directory that has under `path` what the last one has. -/
lemma slot_setDirectory_same {d : ν → Option ℕ} (hd : d path = v.directory path) :
    (v.setDirectory d).slot path = v.slot path := by
  refine Slot.mk.injEq .. |>.mpr ⟨by change (d path).map _ = _; rw [hd]; rfl, Set.ext fun x => ?_⟩
  constructor
  · rintro ⟨d', hd', rfl⟩
    rcases List.mem_cons.1 hd' with rfl | hd'
    · exact ⟨v.directory, List.mem_cons_self, by rw [hd]; rfl⟩
    · exact ⟨d', hd', rfl⟩
  · rintro ⟨d', hd', rfl⟩
    exact ⟨d', List.mem_cons_of_mem _ hd', rfl⟩

/-- A new directory, of what it has under `path`. -/
lemma slot_setDirectory (d : ν → Option ℕ) : (v.setDirectory d).slot path =
    ⟨(d path).map v.content, insert ((d path).map v.content) (v.slot path).possible⟩ := by
  refine Slot.mk.injEq .. |>.mpr ⟨rfl, Set.ext fun x => ?_⟩
  constructor
  · rintro ⟨d', hd', rfl⟩
    rcases List.mem_cons.1 hd' with rfl | hd'
    · exact Set.mem_insert _ _
    · exact Set.mem_insert_of_mem _ ⟨d', hd', rfl⟩
  · rintro (rfl | ⟨d', hd', rfl⟩)
    · exact ⟨d, List.mem_cons_self, rfl⟩
    · exact ⟨d', List.mem_cons_of_mem _ hd', rfl⟩

lemma Volume.Sound.setDirectory (h : v.Sound temporary path) {d : ν → Option ℕ}
    (hwhole : ∀ i, d path = some i → v.flushed i = true) (hknown : ∀ name i, d name = some i → i < v.fresh)
    (hbeside : ∀ i, d temporary = some i → d path ≠ some i ∧ ∀ e ∈ v.directories, e path ≠ some i) :
    (v.setDirectory d).Sound temporary path where
  apart := h.apart
  whole e he i hi := by
    rcases List.mem_cons.1 he with rfl | he
    · exact hwhole i hi
    · exact h.whole e he i hi
  known e he name i hi := by
    rcases List.mem_cons.1 he with rfl | he
    · exact hknown name i hi
    · exact h.known e he name i hi
  distinct e he i hi := by
    rcases List.mem_cons.1 he with rfl | he
    · exact (hbeside i hi).1
    · exact h.distinct e he i hi
  beside e he i hi := by
    rcases List.mem_cons.1 he with rfl | he
    · exact (hbeside i hi).1
    · exact (hbeside i hi).2 e he

variable [DecidableEq ν]

/-- The temporary file is opened beside what is there. -/
lemma Volume.Sound.openTruncated (h : v.Sound temporary path) (empty : β) :
    (v.openTruncated temporary empty).1.Sound temporary path ∧
      (v.openTruncated temporary empty).1.slot path = v.slot path ∧
      (v.openTruncated temporary empty).1.directory temporary = some (v.openTruncated temporary empty).2 := by
  unfold Volume.openTruncated
  cases hname : v.directory temporary with
  | some i =>
    have hi : ∀ d ∈ v.directories, d path ≠ some i := fun d hd => h.beside d hd i hname
    exact ⟨(h.write hi).1, (h.write hi).2, hname⟩
  | none =>
    have hgrown : ({ v with fresh := v.fresh + 1 } : Volume ν β).Sound temporary path :=
      ⟨h.apart, h.whole, fun d hd name i hi => Nat.lt_succ_of_lt (h.known d hd name i hi), h.distinct, h.beside⟩
    have hpath : Function.update v.directory temporary (some v.fresh) path = v.directory path :=
      Function.update_of_ne (Ne.symm h.apart) _ _
    have hnew : ∀ e ∈ v.directories, e path ≠ some v.fresh := fun e he heq =>
      Nat.lt_irrefl _ (h.known e he path _ heq)
    have hset : (({ v with fresh := v.fresh + 1 } : Volume ν β).setDirectory
        (Function.update v.directory temporary (some v.fresh))).Sound temporary path := by
      refine hgrown.setDirectory (fun i hi => ?_) (fun name i hi => ?_) fun i hi => ?_
      · exact h.whole v.directory List.mem_cons_self i (hpath ▸ hi)
      · by_cases hn : name = temporary
        · subst hn
          rw [Function.update_self] at hi
          cases hi
          exact Nat.lt_succ_self _
        · rw [Function.update_of_ne hn] at hi
          exact Nat.lt_succ_of_lt (h.known v.directory List.mem_cons_self name i hi)
      · rw [Function.update_self] at hi
        cases hi
        refine ⟨fun heq => ?_, hnew⟩
        exact hnew v.directory List.mem_cons_self (hpath.symm.trans heq)
    have hunnamed : ∀ d ∈ (({ v with fresh := v.fresh + 1 } : Volume ν β).setDirectory
        (Function.update v.directory temporary (some v.fresh))).directories, d path ≠ some v.fresh := by
      intro d hd
      rcases List.mem_cons.1 hd with rfl | hd
      · exact fun heq => hnew v.directory List.mem_cons_self (hpath.symm.trans heq)
      · exact hnew d hd
    refine ⟨(hset.write hunnamed).1, (hset.write hunnamed).2.trans (slot_setDirectory_same hpath), ?_⟩
    exact Function.update_self ..

lemma Volume.Sound.remove_temporary (h : v.Sound temporary path) :
    (v.remove temporary).Sound temporary path ∧ (v.remove temporary).slot path = v.slot path := by
  have hpath : Function.update v.directory temporary none path = v.directory path :=
    Function.update_of_ne (Ne.symm h.apart) _ _
  refine ⟨h.setDirectory (fun i hi => ?_) (fun name i hi => ?_) fun i hi => ?_, slot_setDirectory_same hpath⟩
  · exact h.whole v.directory List.mem_cons_self i (hpath ▸ hi)
  · by_cases hn : name = temporary
    · subst hn
      rw [Function.update_self] at hi
      cases hi
    · rw [Function.update_of_ne hn] at hi
      exact h.known v.directory List.mem_cons_self name i hi
  · rw [Function.update_self] at hi
    cases hi

/-- A file written beside: what is under `path` is as it was, and once all is done the temporary file is whole. -/
lemma Volume.Sound.writeFlushed (h : v.Sound temporary path) (empty b : β) (faults : Faults β) :
    (v.writeFlushed temporary empty b faults).1.Sound temporary path ∧
      (v.writeFlushed temporary empty b faults).1.slot path = v.slot path ∧
      ((v.writeFlushed temporary empty b faults).2 = .done →
        ∃ i, (v.writeFlushed temporary empty b faults).1.directory temporary = some i ∧
          (v.writeFlushed temporary empty b faults).1.content i = b ∧
          (v.writeFlushed temporary empty b faults).1.flushed i = true) := by
  obtain ⟨hopen, hslot, htemporary⟩ := h.openTruncated empty
  have hbeside : ∀ d ∈ (v.openTruncated temporary empty).1.directories,
      d path ≠ some (v.openTruncated temporary empty).2 := fun d hd => hopen.beside d hd _ htemporary
  unfold Volume.writeFlushed
  cases faults.fate .openFile with
  | fails => exact ⟨h, rfl, fun hdone => by cases hdone⟩
  | cut => exact ⟨h, rfl, fun hdone => by cases hdone⟩
  | succeeds =>
    have hpartly := hopen.write (b := faults.partly) hbeside
    have hwritten := hopen.write (b := b) hbeside
    have hflushed := hwritten.1.flush (i := (v.openTruncated temporary empty).2)
    cases faults.fate .writeFile with
    | fails => exact ⟨hpartly.1, hpartly.2.trans hslot, fun hdone => by cases hdone⟩
    | cut => exact ⟨hpartly.1, hpartly.2.trans hslot, fun hdone => by cases hdone⟩
    | succeeds =>
      cases faults.fate .flushFile with
      | fails => exact ⟨hwritten.1, hwritten.2.trans hslot, fun hdone => by cases hdone⟩
      | cut => exact ⟨hwritten.1, hwritten.2.trans hslot, fun hdone => by cases hdone⟩
      | succeeds =>
        have hkept := hflushed.2.trans (hwritten.2.trans hslot)
        cases faults.fate .closeFile with
        | fails => exact ⟨hflushed.1, hkept, fun hdone => by cases hdone⟩
        | cut => exact ⟨hflushed.1, hkept, fun hdone => by cases hdone⟩
        | succeeds =>
          refine ⟨hflushed.1, hkept, fun _ => ⟨_, htemporary, ?_, ?_⟩⟩
          · exact Function.update_self ..
          · exact Function.update_self ..

lemma Volume.Sound.discard (h : v.Sound temporary path) (faults : Faults β) :
    (v.discard temporary faults).1.Sound temporary path ∧ (v.discard temporary faults).1.slot path = v.slot path ∧
      (v.discard temporary faults).2 ≠ .done := by
  unfold Volume.discard
  cases faults.fate .removeFile with
  | fails => exact ⟨h, rfl, fun hdone => by cases hdone⟩
  | cut => exact ⟨h, rfl, fun hdone => by cases hdone⟩
  | succeeds => exact ⟨h.remove_temporary.1, h.remove_temporary.2, fun hdone => by cases hdone⟩

/-- The rename itself: the file written beside is whole, so the new directory may come back too. -/
lemma Volume.Sound.rename (h : v.Sound temporary path) (hi : v.directory temporary = some i)
    (hwhole : v.flushed i = true) :
    (v.rename temporary path).Sound temporary path ∧
      (v.rename temporary path).slot path = ⟨some (v.content i), insert (some (v.content i)) (v.slot path).possible⟩ := by
  have hpath : Function.update (Function.update v.directory path (v.directory temporary)) temporary none path
      = some i := by
    rw [Function.update_of_ne (Ne.symm h.apart), Function.update_self, hi]
  refine ⟨h.setDirectory (fun j hj => ?_) (fun name j hj => ?_) fun j hj => ?_, ?_⟩
  · rw [hpath] at hj
    cases hj
    exact hwhole
  · by_cases hn : name = temporary
    · subst hn
      rw [Function.update_self] at hj
      cases hj
    · rw [Function.update_of_ne hn] at hj
      by_cases hp : name = path
      · subst hp
        rw [Function.update_self] at hj
        exact h.known v.directory List.mem_cons_self temporary j hj
      · rw [Function.update_of_ne hp] at hj
        exact h.known v.directory List.mem_cons_self name j hj
  · rw [Function.update_self] at hj
    cases hj
  · unfold Volume.rename
    rw [slot_setDirectory, hpath]
    rfl

/-- **Replacing.**  A replacement that is done puts the value, and one that is not leaves what was there, with all it
may fall back to. -/
theorem replace_step (h : v.Sound temporary path) (empty b : β) (faults : Faults β) :
    (v.replace temporary path empty b faults).1.Sound temporary path ∧
      Slot.Step (v.slot path) (if (v.replace temporary path empty b faults).2 = .done then .put b else .keep)
        ((v.replace temporary path empty b faults).1.slot path) := by
  have hkept {w : Volume ν β} {o : Outcome} (hsound : w.Sound temporary path) (hslot : w.slot path = v.slot path)
      (ho : o ≠ .done) :
      w.Sound temporary path ∧ Slot.Step (v.slot path) (if o = .done then .put b else .keep) (w.slot path) := by
    rw [if_neg ho, hslot]
    exact ⟨hsound, .keep _⟩
  obtain ⟨hsound, hslot, hdone⟩ := h.writeFlushed empty b faults
  unfold Volume.replace
  cases faults.fate .makeDirectory with
  | fails => exact hkept h rfl (fun hdone => by cases hdone)
  | cut => exact hkept h rfl (fun hdone => by cases hdone)
  | succeeds =>
    rcases hw : v.writeFlushed temporary empty b faults with ⟨w, o⟩
    rw [hw] at hsound hslot hdone
    obtain ⟨hdropped, hsame, hnot⟩ := hsound.discard faults
    cases o with
    | cut => exact hkept hsound hslot (fun hdone => by cases hdone)
    | failed => exact hkept hdropped (hsame.trans hslot) hnot
    | done =>
      cases faults.fate .renameFile with
      | fails => exact hkept hdropped (hsame.trans hslot) hnot
      | cut => exact hkept hsound hslot (fun hdone => by cases hdone)
      | succeeds =>
        obtain ⟨i, hi, hcontent, hwhole⟩ := hdone rfl
        obtain ⟨hrenamed, hput⟩ := hsound.rename hi hwhole
        refine ⟨hrenamed, ?_⟩
        change Slot.Step (v.slot path) (.put b) ((w.rename temporary path).slot path)
        rw [hput, ← hslot]
        change Slot.Step (w.slot path) (.put b) ⟨some (w.content i), insert (some (w.content i)) (w.slot path).possible⟩
        rw [show w.content i = b from hcontent]
        exact .put _ b

theorem remove_step (h : v.Sound temporary path) :
    (v.remove path).Sound temporary path ∧ Slot.Step (v.slot path) .drop ((v.remove path).slot path) := by
  have htemporary : Function.update v.directory path none temporary = v.directory temporary :=
    Function.update_of_ne h.apart _ _
  refine ⟨h.setDirectory (fun i hi => ?_) (fun name i hi => ?_) fun i hi => ?_, ?_⟩
  · rw [Function.update_self] at hi
    cases hi
  · by_cases hn : name = path
    · subst hn
      rw [Function.update_self] at hi
      cases hi
    · rw [Function.update_of_ne hn] at hi
      exact h.known v.directory List.mem_cons_self name i hi
  · rw [htemporary] at hi
    refine ⟨fun heq => ?_, fun e he => h.beside e he i hi⟩
    rw [Function.update_self] at heq
    cases heq
  · unfold Volume.remove
    rw [slot_setDirectory, Function.update_self]
    exact .drop _

omit [DecidableEq ν] in
theorem settle_step (h : v.Sound temporary path) :
    v.settle.Sound temporary path ∧ Slot.Step (v.slot path) .settle (v.settle.slot path) := by
  have hmem {d : ν → Option ℕ} (hd : d ∈ v.settle.directories) : d ∈ v.directories := by
    rw [List.mem_singleton.1 hd]
    exact List.mem_cons_self
  refine ⟨⟨h.apart, fun d hd => h.whole d (hmem hd), fun d hd => h.known d (hmem hd),
    fun d hd => h.distinct d (hmem hd), fun d hd => h.beside d (hmem hd)⟩, ?_⟩
  have hslot : v.settle.slot path = ⟨(v.slot path).current, {(v.slot path).current}⟩ := by
    refine Slot.mk.injEq .. |>.mpr ⟨rfl, Set.ext fun x => ?_⟩
    constructor
    · rintro ⟨d, hd, rfl⟩
      rw [List.mem_singleton.1 hd]
      rfl
    · rintro rfl
      exact ⟨v.directory, List.mem_singleton_self _, rfl⟩
  rw [hslot]
  exact .settle _

omit [DecidableEq ν] in
/-- **A power cut.**  What comes back under `path` is whole, whatever became of the bytes that were not flushed. -/
theorem powerCut_step (h : v.Sound temporary path) (k : ℕ) (scrambled : ℕ → β) :
    (v.powerCut k scrambled).Sound temporary path ∧
      Slot.Step (v.slot path) .powerCut ((v.powerCut k scrambled).slot path) := by
  have hback : v.directories.getD k v.directory ∈ v.directories := by
    rw [List.getD_eq_getElem?_getD]
    cases hk : v.directories[k]? with
    | none => exact List.mem_cons_self
    | some d => exact List.mem_of_getElem? hk
  have hmem {d : ν → Option ℕ} (hd : d ∈ (v.powerCut k scrambled).directories) : d ∈ v.directories := by
    rw [List.mem_singleton.1 hd]
    exact hback
  refine ⟨⟨h.apart, fun _ _ _ _ => rfl, fun d hd => h.known d (hmem hd),
    fun d hd => h.distinct d (hmem hd), fun d hd i hi => ?_⟩, ?_⟩
  · rw [List.mem_singleton.1 hd]
    exact h.distinct _ hback i hi
  · have hread : (v.powerCut k scrambled).read path = ((v.directories.getD k v.directory) path).map v.content := by
      change ((v.directories.getD k v.directory) path).map _ = _
      cases hi : (v.directories.getD k v.directory) path with
      | none => rfl
      | some i =>
        have hwhole := h.whole _ hback i hi
        change some (if v.flushed i then v.content i else scrambled i) = _
        rw [hwhole]
        rfl
    have hslot : (v.powerCut k scrambled).slot path =
        ⟨(v.powerCut k scrambled).read path, {(v.powerCut k scrambled).read path}⟩ := by
      refine Slot.mk.injEq .. |>.mpr ⟨rfl, Set.ext fun x => ?_⟩
      constructor
      · rintro ⟨d, hd, rfl⟩
        rw [List.mem_singleton.1 hd]
        rfl
      · rintro rfl
        exact ⟨_, List.mem_singleton_self _, rfl⟩
    rw [hslot]
    exact .powerCut _ ⟨_, hback, hread⟩

end Steps

end Tiai.Lib.Disk
