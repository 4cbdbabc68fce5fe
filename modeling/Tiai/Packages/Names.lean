import Tiai.Deploy.Names

/-!
# What the server lets a file be called

The patterns of `features/package/manifest.py` and `api/routes/packages.py` are the agent's to the letter.
Python's `$` is not Go's: it also matches before a newline that ends the text.

* `validFileName_eq` — off such a newline, the two validators agree;
* `lower_folded` — of two names the server accepts, the agent sees one when they differ in case only.
-/

namespace Tiai.Packages

open Deploy (GoText fileName reservedName isAlnum)

/-- `re.match` of a pattern between `^` and `$`, from what the pattern matches whole. -/
def matchLine (whole : String → Bool) (s : String) : Bool :=
  whole s || (s.toList.getLast? = some '\n' && whole (String.ofList s.toList.dropLast))

/-- `valid_file_name`. -/
def validFileName (name : String) : Bool :=
  matchLine fileName name && !matchLine reservedName name && name.toList.getLast? ≠ some '.' &&
    name.toList.getLast? ≠ some ' '

/-- `WINGET_ID.match`. -/
def wingetIdMatches : String → Bool := matchLine Deploy.wingetID

/-- `WINGET_VERSION.match`. -/
def wingetVersionMatches : String → Bool := matchLine Deploy.wingetVersion

/-- The name ends in a newline. -/
def endsInNewline (name : String) : Bool := name.toList.getLast? = some '\n'

/-- A name, as a file system that folds case compares it. -/
def folded (name : String) : List Char := name.toList.map Char.toLower

section Agree

variable {whole : String → Bool} {name : String}

lemma matchLine_eq (h : endsInNewline name = false) : matchLine whole name = whole name := by
  have hlast : ¬name.toList.getLast? = some '\n' := by simpa [endsInNewline] using h
  simp [matchLine, hlast]

/-- **Off a newline at the end, the server and the agent accept the same names.** -/
theorem validFileName_eq (h : endsInNewline name = false) :
    validFileName name = Deploy.validFileName name := by
  simp only [validFileName, Deploy.validFileName, matchLine_eq h]

lemma startsAlnum_chars {p : Char → Bool} {max : ℕ} (h : Deploy.startsAlnum p max name = true) :
    ∀ c ∈ name.toList, isAlnum c = true ∨ p c = true := by
  unfold Deploy.startsAlnum at h
  intro x hx
  cases hl : name.toList with
  | nil => simp [hl] at hx
  | cons c cs =>
    simp only [hl, Bool.and_eq_true, List.all_eq_true] at h
    rcases List.mem_cons.1 (hl ▸ hx) with rfl | hx
    · exact .inl h.1.1
    · exact .inr (h.1.2 x hx)

lemma fileName_chars (h : fileName name = true) :
    ∀ c ∈ name.toList, isAlnum c = true ∨ c ∈ " ._()+-".toList := by
  intro c hc
  rcases startsAlnum_chars h c hc with hc | hc
  · exact .inl hc
  · simpa using hc

lemma fileName_ascii (h : fileName name = true) : ∀ c ∈ name.toList, c.toNat < 128 := by
  intro c hc
  rcases fileName_chars h c hc with hc | hc
  · exact Deploy.isAlnum_ascii hc
  · exact Deploy.text_cases (P := fun c => c.toNat < 128) (by decide) c hc

/-- The agent refuses a name with a newline in it. -/
lemma no_newline (h : Deploy.validFileName name = true) : endsInNewline name = false := by
  have hfile : fileName name = true := by
    simp only [Deploy.validFileName, Bool.and_eq_true] at h
    exact h.1.1.1
  by_contra hend
  have hlast : name.toList.getLast? = some '\n' := by simpa [endsInNewline] using hend
  have hchar := fileName_chars hfile '\n' (List.mem_of_getLast? hlast)
  exact absurd hchar (by decide)

lemma matchLine_chars {p : Char → Prop} (hp : p '\n')
    (hwhole : ∀ t, whole t = true → ∀ c ∈ t.toList, p c) (h : matchLine whole name = true) :
    ∀ c ∈ name.toList, p c := by
  rw [matchLine, Bool.or_eq_true, Bool.and_eq_true, decide_eq_true_iff] at h
  rcases h with h | ⟨hlast, h⟩
  · exact hwhole name h
  · intro c hc
    rw [← List.dropLast_append_getLast? _ hlast] at hc
    rcases List.mem_append.1 hc with hc | hc
    · exact hwhole _ h c (by rwa [String.toList_ofList])
    · exact List.mem_singleton.1 hc ▸ hp

lemma validFileName_ascii (h : validFileName name = true) : ∀ c ∈ name.toList, c.toNat < 128 := by
  simp only [validFileName, Bool.and_eq_true] at h
  exact matchLine_chars (by decide) (fun _ ht => fileName_ascii ht) h.1.1.1

lemma validFileName_ne_empty (h : validFileName name = true) : name ≠ "" := by
  rintro rfl
  exact absurd h (by decide)

/-- **The agent's lower case of a name the server accepts** is the folded name. -/
theorem lower_folded (go : GoText) (h : validFileName name = true) :
    (go.lower name).toList = folded name := by
  rw [Deploy.lower_toList]
  exact List.map_congr_left fun c hc => go.toLower_ascii c (validFileName_ascii h c hc)

end Agree

end Tiai.Packages
